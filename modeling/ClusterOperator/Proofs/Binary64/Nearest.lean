import Mathlib.Algebra.Order.Field.Rat
import Mathlib.Algebra.Order.Round
import Mathlib.Data.Rat.Floor
import Mathlib.Tactic.Linarith
import Mathlib.Tactic.NormNum
import Mathlib.Tactic.Positivity
import Mathlib.Tactic.Ring

/-!
# Numbers that binary64 has

The numbers that are not negative and have a binary64 form, but for the largest exponent. Arithmetic
comes to one of them that is nearest to the exact result. That is all that the lemmas here use: the
result is exact where it can be, and else the distance is at most one half of the distance of two
neighbours.
-/

namespace ClusterOperator.Binary64

/-- The number has at most 53 digits in binary, and none of them behind the last place. -/
def Representable (number : ℚ) : Prop :=
  ∃ (mantissa : ℕ) (exponent : ℤ), mantissa < 2 ^ 53 ∧ -1074 ≤ exponent ∧
    number = mantissa * 2 ^ exponent

/-- A representable number than which no other one is nearer. -/
structure Nearest (exact number : ℚ) : Prop where
  representable : Representable number
  least : ∀ other, Representable other → |number - exact| ≤ |other - exact|

section Representable

variable {number exact bound : ℚ} {exponent : ℤ}

theorem two_zpow_pos (exponent : ℤ) : (0 : ℚ) < 2 ^ exponent := zpow_pos (by norm_num) exponent

theorem two_zpow_add (left right : ℤ) : (2 : ℚ) ^ (left + right) = 2 ^ left * 2 ^ right :=
  zpow_add₀ (by norm_num) left right

theorem Representable.nonneg (representable : Representable number) : 0 ≤ number := by
  rcases representable with ⟨mantissa, exponent, _, _, rfl⟩
  have scale := two_zpow_pos exponent
  positivity

theorem representable_natCast {whole : ℕ} (small : whole < 2 ^ 53) : Representable whole :=
  ⟨whole, 0, small, by norm_num, by simp⟩

/-- A whole number can have any digits, if they end in zeros from the 53rd one on. -/
theorem representable_mul_two_pow {whole : ℕ} (small : whole < 2 ^ 53) (zeros : ℕ) :
    Representable ((whole * 2 ^ zeros : ℕ) : ℚ) :=
  ⟨whole, zeros, small, by omega, by push_cast; rw [zpow_natCast]⟩

theorem representable_of_dvd {whole zeros : ℕ} (multiple : 2 ^ zeros ∣ whole)
    (small : whole < 2 ^ 53 * 2 ^ zeros) : Representable whole := by
  rcases multiple with ⟨digits, rfl⟩
  rw [Nat.mul_comm] at small ⊢
  exact representable_mul_two_pow (Nat.lt_of_mul_lt_mul_right small) zeros

/-- Also the next power of two is representable. -/
theorem representable_of_le {mantissa : ℕ} (small : mantissa ≤ 2 ^ 53)
    (least : -1074 ≤ exponent) : Representable (mantissa * 2 ^ exponent) := by
  rcases Nat.lt_or_eq_of_le small with less | same
  · exact ⟨mantissa, exponent, less, least, rfl⟩
  · refine ⟨2 ^ 52, exponent + 1, by norm_num, by omega, ?_⟩
    rw [same, two_zpow_add]
    push_cast
    ring

theorem mul_two_zpow_of_le {mantissa : ℕ} {own : ℤ} (le : exponent ≤ own) :
    (mantissa : ℚ) * 2 ^ own = (mantissa * 2 ^ (own - exponent).toNat : ℕ) * 2 ^ exponent := by
  push_cast
  rw [mul_assoc, ← zpow_natCast, ← two_zpow_add, Int.toNat_of_nonneg (by omega)]
  congr 2
  omega

/-- Large numbers are multiples of the last place that they have. -/
theorem Representable.exists_multiple (representable : Representable number)
    (large : 2 ^ (exponent + 52) ≤ number) : ∃ whole : ℕ, number = whole * 2 ^ exponent := by
  rcases representable with ⟨mantissa, own, small, _, rfl⟩
  refine ⟨_, mul_two_zpow_of_le ?_⟩
  have scale := two_zpow_pos own
  have mantissaSmall : (mantissa : ℚ) < 2 ^ 53 := by exact_mod_cast small
  have below : (2 : ℚ) ^ (exponent + 52) < 2 ^ (53 + own) := by
    rw [two_zpow_add 53 own]
    refine large.trans_lt ?_
    exact mul_lt_mul_of_pos_right mantissaSmall scale
  have exponents := (zpow_lt_zpow_iff_right₀ (by norm_num : (1 : ℚ) < 2)).mp below
  omega

/-- All numbers are multiples of the least place. -/
theorem Representable.exists_multiple_least (representable : Representable number) :
    ∃ whole : ℕ, number = whole * 2 ^ (-1074 : ℤ) := by
  rcases representable with ⟨mantissa, own, _, least, rfl⟩
  exact ⟨_, mul_two_zpow_of_le least⟩

end Representable

namespace Nearest

variable {exact number bound : ℚ} {exponent : ℤ}

theorem eq_of_representable (nearest : Nearest exact number) (representable : Representable exact) :
    number = exact := by
  have least := nearest.least exact representable
  rw [sub_self, abs_zero] at least
  exact sub_eq_zero.mp (abs_nonpos_iff.mp least)

theorem of_representable (representable : Representable exact) : Nearest exact exact := by
  refine ⟨representable, fun other _ => ?_⟩
  rw [sub_self, abs_zero]
  exact abs_nonneg _

theorem le_of_le (nearest : Nearest exact number) (representable : Representable bound)
    (le : exact ≤ bound) : number ≤ bound := by
  have least := nearest.least bound representable
  rw [abs_of_nonneg (sub_nonneg.mpr le)] at least
  have le_abs := le_abs_self (number - exact)
  linarith

theorem ge_of_ge (nearest : Nearest exact number) (representable : Representable bound)
    (le : bound ≤ exact) : bound ≤ number := by
  have least := nearest.least bound representable
  rw [abs_sub_comm bound, abs_of_nonneg (sub_nonneg.mpr le)] at least
  have neg_le_abs := neg_le_abs (number - exact)
  linarith

/-- Beyond a power of two, there is no other number within half of a last place. -/
theorem eq_of_near (nearest : Nearest exact number) (exponent : ℤ) {given : ℚ}
    (representable : Representable given) (large : 2 ^ (exponent + 52) ≤ number)
    (givenLarge : 2 ^ (exponent + 52) ≤ given) (near : |given - exact| < 2 ^ exponent / 2) :
    number = given := by
  have scale := two_zpow_pos exponent
  have least := nearest.least given representable
  rcases nearest.representable.exists_multiple large with ⟨places, rfl⟩
  rcases representable.exists_multiple givenLarge with ⟨others, rfl⟩
  have triangle := abs_sub_le ((places : ℚ) * 2 ^ exponent) exact (others * 2 ^ exponent)
  rw [abs_sub_comm exact, ← sub_mul, abs_mul, abs_of_pos scale] at triangle
  have close : |(places : ℚ) - others| < 1 := by
    refine lt_of_mul_lt_mul_right ?_ scale.le
    linarith
  have same : places = others := by
    have close : |(places : ℤ) - others| < 1 := by exact_mod_cast close
    have zero := Int.abs_lt_one_iff.mp close
    omega
  rw [same]

/-- Up to a power of two, the error is at most half of a last place. -/
theorem error_le (nearest : Nearest exact number) (exponent : ℤ) (nonnegative : 0 ≤ exact)
    (small : exact ≤ 2 ^ (exponent + 53)) (least : -1074 ≤ exponent) :
    |number - exact| ≤ 2 ^ exponent / 2 := by
  have scale := two_zpow_pos exponent
  -- the nearest multiple of the last place is no farther than that
  obtain ⟨places, isPlaces⟩ : ∃ places, places = exact / 2 ^ exponent := ⟨_, rfl⟩
  have isExact : exact = places * 2 ^ exponent := by
    rw [isPlaces, div_mul_cancel₀ _ scale.ne']
  have placesNonneg : 0 ≤ places := isPlaces ▸ div_nonneg nonnegative scale.le
  have placesSmall : places ≤ 2 ^ 53 := by
    rw [add_comm, two_zpow_add] at small
    rw [isPlaces, div_le_iff₀ scale]
    exact_mod_cast small
  have below := Nat.floor_le (add_nonneg placesNonneg (by norm_num : (0 : ℚ) ≤ 1 / 2))
  have above := Nat.lt_floor_add_one (places + 1 / 2)
  generalize ⌊places + 1 / 2⌋₊ = whole at below above
  have wholeSmall : whole ≤ 2 ^ 53 := by
    have less : (whole : ℚ) < 2 ^ 53 + 1 := by linarith
    have less : whole < 2 ^ 53 + 1 := by exact_mod_cast less
    omega
  refine (nearest.least _ (representable_of_le wholeSmall least)).trans ?_
  rw [isExact, ← sub_mul, abs_mul, abs_of_pos scale]
  have close : |(whole : ℚ) - places| ≤ 1 / 2 := by
    rw [abs_le]
    constructor
    · linarith
    · linarith
  have scaled := mul_le_mul_of_nonneg_right close scale.le
  linarith

end Nearest

end ClusterOperator.Binary64
