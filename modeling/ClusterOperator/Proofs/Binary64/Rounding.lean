import ClusterOperator.Proofs.Binary64.Nearest
import Mathlib

/-!
# Rounding to binary64

The results of arithmetic are cut off somewhere, with what is known of the rest: whether there is
one, and how it compares to one half. From there they are shifted to the last place of binary64 and
rounded, to even where both neighbours are equally near. What comes out is nearest to the exact
result, and survives being packed into bits and taken out again.
-/

namespace ClusterOperator.Binary64

open Float.Model Float.Model.UnpackedFloat

/-! ### Shifting -/

/-- What the digits that were cut off say of the exact number of places. -/
def Describes (extended : ExtendedMantissa) (places : ℚ) : Prop :=
  match extended.roundBit, extended.stickyBit with
  | false, false => places = extended.mantissa
  | false, true => extended.mantissa < places ∧ places < extended.mantissa + 1 / 2
  | true, false => places = extended.mantissa + 1 / 2
  | true, true => extended.mantissa + 1 / 2 < places ∧ places < extended.mantissa + 1

section Shifting

variable {extended : ExtendedMantissa} {places : ℚ}

theorem Describes.bounds (describes : Describes extended places) :
    extended.mantissa ≤ places ∧ places < extended.mantissa + 1 := by
  rcases extended with ⟨mantissa, roundBit, stickyBit⟩
  cases roundBit <;> cases stickyBit <;> simp only [Describes] at describes ⊢
  · constructor <;> linarith
  · constructor <;> linarith
  · constructor <;> linarith
  · constructor <;> linarith

theorem Describes.shiftRightOne (describes : Describes extended places) :
    Describes extended.shiftRightOne (places / 2) := by
  rcases extended with ⟨mantissa, roundBit, stickyBit⟩
  have halves : (mantissa : ℚ) = 2 * (mantissa / 2 : ℕ) + (mantissa % 2 : ℕ) := by
    exact_mod_cast (Nat.div_add_mod mantissa 2).symm
  rcases Nat.mod_two_eq_zero_or_one mantissa with even | odd
  · have shifted : ExtendedMantissa.shiftRightOne ⟨mantissa, roundBit, stickyBit⟩ =
        ⟨mantissa / 2, false, roundBit || stickyBit⟩ := by
      simp [ExtendedMantissa.shiftRightOne, even]
    rw [even, Nat.cast_zero, add_zero] at halves
    rw [shifted]
    cases roundBit <;> cases stickyBit <;> simp only [Describes, Bool.or_self, Bool.or_true,
      Bool.true_or] at describes ⊢
    · linarith
    · constructor <;> linarith
    · constructor <;> linarith
    · constructor <;> linarith
  · have shifted : ExtendedMantissa.shiftRightOne ⟨mantissa, roundBit, stickyBit⟩ =
        ⟨mantissa / 2, true, roundBit || stickyBit⟩ := by
      simp [ExtendedMantissa.shiftRightOne, odd]
    rw [odd, Nat.cast_one] at halves
    rw [shifted]
    cases roundBit <;> cases stickyBit <;> simp only [Describes, Bool.or_self, Bool.or_true,
      Bool.true_or] at describes ⊢
    · linarith
    · constructor <;> linarith
    · constructor <;> linarith
    · constructor <;> linarith

theorem Describes.shiftRight (describes : Describes extended places) (count : ℕ) :
    Describes (extended >>> count) (places / 2 ^ count) := by
  induction count with
  | zero =>
      rw [pow_zero, div_one]
      exact describes
  | succ count ih =>
      have next := ih.shiftRightOne
      rw [div_div, ← pow_succ] at next
      exact next

/-- Rounding goes to a whole number that is nearest. -/
theorem Describes.roundedMantissa_near (describes : Describes extended places) :
    |(extended.roundedMantissa : ℚ) - places| ≤ 1 / 2 := by
  rcases extended with ⟨mantissa, roundBit, stickyBit⟩
  have parity : (mantissa % 2 : ℕ) ≤ 1 := by omega
  have parity : ((mantissa % 2 : ℕ) : ℚ) ≤ 1 := by exact_mod_cast parity
  have nonnegative : (0 : ℚ) ≤ (mantissa % 2 : ℕ) := Nat.cast_nonneg _
  rw [abs_le]
  cases roundBit <;> cases stickyBit <;>
    simp only [Describes, ExtendedMantissa.roundedMantissa, ExtendedMantissa.accuracy,
      Accuracy.roundToNearestEven, Nat.cast_add, Nat.cast_one] at describes ⊢
  · constructor <;> linarith
  · constructor <;> linarith
  · constructor <;> linarith
  · constructor <;> linarith

end Shifting

/-! ### Rounding -/

/-- A number in its binary64 form, but for the largest exponent: all digits of the mantissa are used
if the exponent is not the least one. -/
inductive Canonical : UnpackedFloat → ℚ → Prop
  | zero (sign : Sign) : Canonical (.zero sign) 0
  | finite {mantissa : ℕ} {exponent : ℤ} (positive : 0 < mantissa) (small : mantissa < 2 ^ 53)
      (least : -1074 ≤ exponent) (full : 2 ^ 52 ≤ mantissa ∨ exponent = -1074) :
      Canonical (.finite .positive mantissa exponent positive) (mantissa * 2 ^ exponent)

theorem Canonical.representable {unpacked : UnpackedFloat} {number : ℚ}
    (canonical : Canonical unpacked number) : Representable number := by
  cases canonical with
  | zero => exact ⟨0, 0, by norm_num, by norm_num, by norm_num⟩
  | finite positive small least full => exact ⟨_, _, small, least, rfl⟩

/-- The exponent that a number gets in binary64. -/
theorem targetExponent_eq (mantissa : ℕ) (exponent : ℤ) :
    Format.binary64.targetExponent (totalExponent mantissa exponent) =
      max (mantissa.log2 + exponent - 52) (-1074) := by
  simp only [Format.targetExponent, totalExponent, Format.mantissaBits, Format.minExponent]
  norm_num
  omega

theorem shiftToTargetExponent_eq (mantissa : ℕ) (exponent : ℤ) (accuracy : Accuracy) :
    shiftToTargetExponent .binary64 mantissa exponent accuracy =
      (ExtendedMantissa.ofMantissaAndAccuracy mantissa accuracy >>>
        (max (mantissa.log2 + exponent - 52) (-1074) - exponent).toNat,
        exponent + (max (mantissa.log2 + exponent - 52) (-1074) - exponent).toNat) := by
  rw [shiftToTargetExponent, targetExponent_eq]
  rfl

section Rounding

variable {mantissa : ℕ} {exponent : ℤ} {accuracy : Accuracy} {places : ℚ}

theorem log2_le_of_lt {digits : ℕ} (small : mantissa < 2 ^ (digits + 1)) :
    mantissa.log2 ≤ digits := by
  rcases Nat.eq_zero_or_pos mantissa with rfl | positive
  · simp
  · exact Nat.lt_succ_iff.mp ((Nat.log2_lt positive.ne').mpr small)

/-- What has few digits already is not shifted. -/
theorem shiftToTargetExponent_of_small (small : mantissa < 2 ^ 53) (least : -1074 ≤ exponent) :
    shiftToTargetExponent .binary64 mantissa exponent .exact =
      (⟨mantissa, false, false⟩, exponent) := by
  have digits : mantissa.log2 ≤ 52 := log2_le_of_lt small
  have nothing : (max (mantissa.log2 + exponent - 52) (-1074) - exponent).toNat = 0 := by omega
  rw [shiftToTargetExponent_eq, nothing]
  exact congrArg (_, ·) (add_zero exponent)

/-- Where rounding makes a number one digit longer, it ends in a zero that is dropped. -/
theorem shiftToTargetExponent_of_full (least : -1074 ≤ exponent) :
    shiftToTargetExponent .binary64 (2 ^ 53) exponent .exact =
      (⟨2 ^ 52, false, false⟩, exponent + 1) := by
  have digits : (2 ^ 53).log2 = 53 := Nat.log2_two_pow
  have one : (max (((2 ^ 53).log2 : ℕ) + exponent - 52) (-1074) - exponent).toNat = 1 := by
    rw [digits]
    omega
  rw [shiftToTargetExponent_eq, one]
  rfl

/-- A number that is rounded to its last place is canonical. -/
theorem canonical_of_rounded {rounded : ℕ} (small : rounded ≤ 2 ^ 53) (least : -1074 ≤ exponent)
    (full : 2 ^ 52 ≤ rounded ∨ exponent = -1074) :
    let final := shiftToTargetExponent .binary64 rounded exponent .exact
    Canonical
      (if isZero : final.1.mantissa = 0 then .zero .positive
        else .finite .positive final.1.mantissa final.2 (Nat.pos_of_ne_zero isZero))
      (rounded * 2 ^ exponent) := by
  intro final
  rcases Nat.lt_or_eq_of_le small with less | rfl
  · have same : final = (⟨rounded, false, false⟩, exponent) :=
      shiftToTargetExponent_of_small less least
    rw [same]
    dsimp only
    split
    · rename_i isZero
      rw [isZero, Nat.cast_zero, zero_mul]
      exact .zero _
    · exact .finite _ less least full
  · have same : final = (⟨2 ^ 52, false, false⟩, exponent + 1) := shiftToTargetExponent_of_full least
    rw [same]
    have value : ((2 ^ 53 : ℕ) : ℚ) * 2 ^ exponent = (2 ^ 52 : ℕ) * 2 ^ (exponent + 1) := by
      rw [two_zpow_add]
      push_cast
      ring
    rw [value]
    exact .finite (Nat.two_pow_pos 52) (by norm_num) (by omega) (.inl le_rfl)

/-- The multiple of the last place that is nearest among these is nearest among all numbers, because
there are no finer ones unless they are small. -/
theorem nearest_of_rounded {rounded : ℕ} (small : rounded ≤ 2 ^ 53) (least : -1074 ≤ exponent)
    (near : |(rounded : ℚ) - places| ≤ 1 / 2) (full : 2 ^ 52 ≤ places ∨ exponent = -1074) :
    Nearest (places * 2 ^ exponent) (rounded * 2 ^ exponent) := by
  have scale := two_zpow_pos exponent
  refine ⟨representable_of_le small least, fun other representable => ?_⟩
  have multiples (whole : ℕ) : |(rounded : ℚ) * 2 ^ exponent - places * 2 ^ exponent| ≤
      |(whole : ℚ) * 2 ^ exponent - places * 2 ^ exponent| := by
    rw [← sub_mul, ← sub_mul, abs_mul, abs_mul]
    refine mul_le_mul_of_nonneg_right ?_ (abs_nonneg _)
    rcases eq_or_ne whole rounded with rfl | other
    · exact le_rfl
    · have apart : 1 ≤ |(whole : ℚ) - rounded| := by
        have apart : 1 ≤ |(whole : ℤ) - rounded| := Int.one_le_abs (by omega)
        exact_mod_cast apart
      have triangle := abs_sub_abs_le_abs_sub ((whole : ℚ) - rounded) (places - rounded)
      rw [sub_sub_sub_cancel_right, abs_sub_comm places] at triangle
      linarith
  rcases full with full | rfl
  · rcases le_or_gt (2 ^ (exponent + 52)) other with large | less
    · rcases representable.exists_multiple large with ⟨whole, rfl⟩
      exact multiples whole
    · -- the least multiple that is so large lies between the other number and the exact one
      have between : ((2 ^ 52 : ℕ) : ℚ) * 2 ^ exponent = 2 ^ (exponent + 52) := by
        rw [two_zpow_add, mul_comm]
        norm_num
      have exactLarge : 2 ^ (exponent + 52) ≤ places * 2 ^ exponent := by
        rw [← between]
        exact mul_le_mul_of_nonneg_right (by exact_mod_cast full) scale.le
      refine (multiples (2 ^ 52)).trans ?_
      rw [between, abs_sub_comm, abs_of_nonneg (by linarith), abs_sub_comm,
        abs_of_nonneg (by linarith)]
      linarith
  · rcases representable.exists_multiple_least with ⟨whole, rfl⟩
    exact multiples whole

theorem mantissa_ofMantissaAndAccuracy (mantissa : ℕ) (accuracy : Accuracy) :
    (ExtendedMantissa.ofMantissaAndAccuracy mantissa accuracy).mantissa = mantissa := by
  rcases accuracy with _ | order
  · rfl
  · cases order <;> rfl

/-- What is left when digits are dropped is less than the number of places of a mantissa. -/
theorem places_lt_of_dropped {dropped : ℕ} (bound : places < mantissa + 1)
    (fits : mantissa.log2 ≤ 52 + dropped) : places / 2 ^ dropped < 2 ^ 53 := by
  have fits : mantissa + 1 ≤ 2 ^ (53 + dropped) :=
    Nat.lt_log2_self.trans_le (Nat.pow_le_pow_right (by norm_num) (by omega))
  have fits : (mantissa : ℚ) + 1 ≤ 2 ^ 53 * 2 ^ dropped := by
    rw [← pow_add]
    exact_mod_cast fits
  rw [div_lt_iff₀ (by positivity)]
  linarith

/-- What is left when digits are dropped still fills the places of a mantissa. -/
theorem le_places_of_dropped {dropped : ℕ} (nonzero : mantissa ≠ 0) (bound : mantissa ≤ places)
    (fills : 52 + dropped ≤ mantissa.log2) : 2 ^ 52 ≤ places / 2 ^ dropped := by
  have fills : 2 ^ (52 + dropped) ≤ mantissa :=
    (Nat.pow_le_pow_right (by norm_num) fills).trans (Nat.log2_self_le nonzero)
  have fills : (2 : ℚ) ^ 52 * 2 ^ dropped ≤ mantissa := by
    rw [← pow_add]
    exact_mod_cast fills
  rw [le_div_iff₀ (by positivity)]
  exact fills.trans bound

/-- Rounding may carry to one more place, but not further. -/
theorem rounded_le_of_near {rounded : ℕ} (near : |(rounded : ℚ) - places| ≤ 1 / 2)
    (small : places < 2 ^ 53) : rounded ≤ 2 ^ 53 := by
  rw [abs_le] at near
  have less : (rounded : ℚ) < 2 ^ 53 + 1 := by linarith
  have less : rounded < 2 ^ 53 + 1 := by exact_mod_cast less
  omega

theorem le_rounded_of_near {rounded : ℕ} (near : |(rounded : ℚ) - places| ≤ 1 / 2)
    (large : 2 ^ 52 ≤ places) : 2 ^ 52 ≤ rounded := by
  rw [abs_le] at near
  have greater : (2 : ℚ) ^ 52 < rounded + 1 := by linarith
  have greater : 2 ^ 52 < rounded + 1 := by exact_mod_cast greater
  omega

/-- Cutting off digits and rounding comes to a nearest number, if there were enough digits. -/
theorem roundWithAccuracy_nearest
    (describes : Describes (.ofMantissaAndAccuracy mantissa accuracy) places)
    (enough : 2 ^ 52 ≤ mantissa ∨ exponent ≤ -1074) :
    ∃ number, Canonical (roundWithAccuracy .binary64 .positive mantissa exponent accuracy) number ∧
      Nearest (places * 2 ^ exponent) number := by
  obtain ⟨target, isTarget⟩ : ∃ target, target = max (mantissa.log2 + exponent - 52) (-1074) :=
    ⟨_, rfl⟩
  obtain ⟨dropped, isDropped⟩ : ∃ dropped, dropped = (target - exponent).toNat := ⟨_, rfl⟩
  have digits : 2 ^ 52 ≤ mantissa → 52 ≤ mantissa.log2 := fun large =>
    (Nat.le_log2 (by omega)).mpr large
  have reached : exponent + dropped = target := by omega
  have shifted : shiftToTargetExponent .binary64 mantissa exponent accuracy =
      (ExtendedMantissa.ofMantissaAndAccuracy mantissa accuracy >>> dropped, target) := by
    rw [shiftToTargetExponent_eq, ← isTarget, ← isDropped, reached]
  have near := (describes.shiftRight dropped).roundedMantissa_near
  have bounds := describes.bounds
  rw [mantissa_ofMantissaAndAccuracy] at bounds
  have small : places / 2 ^ dropped < 2 ^ 53 := places_lt_of_dropped bounds.2 (by omega)
  have full : 2 ^ 52 ≤ places / 2 ^ dropped ∨ target = -1074 := by
    rcases eq_or_ne target (-1074) with least | greater
    · exact .inr least
    · have nonzero : mantissa ≠ 0 := by
        rintro rfl
        rw [Nat.log2_zero] at isTarget
        omega
      exact .inl (le_places_of_dropped nonzero bounds.1 (by omega))
  have value : places * 2 ^ exponent = places / 2 ^ dropped * 2 ^ target := by
    rw [← reached, two_zpow_add, zpow_natCast]
    field_simp
  rw [roundWithAccuracy, shifted, value]
  dsimp only
  generalize ExtendedMantissa.roundedMantissa _ = rounded at near
  have least : -1074 ≤ target := by omega
  have few : rounded ≤ 2 ^ 53 := rounded_le_of_near near small
  have stillFull : 2 ^ 52 ≤ rounded ∨ target = -1074 := full.imp (le_rounded_of_near near) id
  exact ⟨_, canonical_of_rounded few least stillFull, nearest_of_rounded few least near full⟩

end Rounding

end ClusterOperator.Binary64
