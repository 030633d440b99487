import ClusterOperator.Proofs.Binary64.Packing

/-!
# Arithmetic in binary64

Sums, products and quotients of numbers that are not negative come to a nearest number, and so do
decimal numbers of few digits.
-/

namespace ClusterOperator.Binary64

open Float.Model Float.Model.UnpackedFloat

/-! ### Results before they are packed -/

section Unpacked

variable {left right : UnpackedFloat} {leftNumber rightNumber : ℚ} {mantissa : ℕ} {exponent : ℤ}

/-- Zeros at its end give a mantissa as many digits as are asked for. -/
theorem two_pow_le_shiftLeft {digits zeros : ℕ} (positive : 0 < mantissa)
    (enough : digits ≤ mantissa.log2 + zeros) : 2 ^ digits ≤ mantissa <<< zeros := by
  rw [Nat.shiftLeft_eq]
  calc 2 ^ digits ≤ 2 ^ (mantissa.log2 + zeros) := Nat.pow_le_pow_right (by norm_num) enough
    _ = 2 ^ mantissa.log2 * 2 ^ zeros := pow_add ..
    _ ≤ mantissa * 2 ^ zeros := Nat.mul_le_mul_right _ (Nat.log2_self_le positive.ne')

/-- A mantissa of few digits gets zeros at its end before it is rounded. -/
theorem round_nearest (positive : 0 < mantissa) :
    ∃ number, Canonical (UnpackedFloat.round .binary64 .positive mantissa exponent) number ∧
      Nearest (mantissa * 2 ^ exponent) number := by
  obtain ⟨target, isTarget⟩ : ∃ target, target = max (mantissa.log2 + exponent - 52) (-1074) :=
    ⟨_, rfl⟩
  obtain ⟨zeros, isZeros⟩ : ∃ zeros, zeros = (exponent - target).toNat := ⟨_, rfl⟩
  have shifted : UnpackedFloat.round .binary64 .positive mantissa exponent =
      roundWithAccuracy .binary64 .positive (mantissa <<< zeros) (exponent - zeros) .exact := by
    rw [UnpackedFloat.round, targetExponent_eq, ← isTarget, isZeros]
    rfl
  have value : (mantissa : ℚ) * 2 ^ exponent = (mantissa <<< zeros : ℕ) * 2 ^ (exponent - zeros) := by
    rw [Nat.shiftLeft_eq]
    push_cast
    rw [mul_assoc, ← zpow_natCast, ← two_zpow_add]
    congr 2
    omega
  rw [shifted, value]
  apply roundWithAccuracy_nearest
  · rfl
  · have enough : 52 ≤ mantissa.log2 + zeros ∨ exponent - zeros ≤ -1074 := by omega
    exact enough.imp (two_pow_le_shiftLeft positive) id

theorem normalize_nearest (mantissa : ℕ) (exponent : ℤ) :
    ∃ number, Canonical (UnpackedFloat.normalize .binary64 mantissa exponent .positive) number ∧
      Nearest (mantissa * 2 ^ exponent) number := by
  unfold UnpackedFloat.normalize
  rcases Nat.eq_zero_or_pos mantissa with rfl | positive
  · refine ⟨0, .zero _, ?_⟩
    rw [Nat.cast_zero, zero_mul]
    exact .of_representable (Canonical.zero .positive).representable
  · have greater : compare (mantissa : ℤ) 0 = .gt := by
      rw [compare_gt_iff_gt]
      exact_mod_cast positive
    rw [greater]
    exact round_nearest positive

/-- A sum is computed in places of the smaller exponent. -/
theorem decreaseExponent_value {target : ℤ} (le : target ≤ exponent) :
    ((decreaseExponent mantissa exponent target).1 : ℚ) * 2 ^ target =
      mantissa * 2 ^ exponent := by
  simp only [decreaseExponent, Nat.shiftLeft_eq]
  exact (mul_two_zpow_of_le le).symm

theorem add_nearest (first : Canonical left leftNumber) (second : Canonical right rightNumber) :
    ∃ number, Canonical (UnpackedFloat.add .binary64 left right) number ∧
      Nearest (leftNumber + rightNumber) number := by
  cases first with
  | zero sign =>
      cases second with
      | zero other =>
          rw [add_zero]
          refine ⟨0, ?_, .of_representable (Canonical.zero sign).representable⟩
          cases sign <;> cases other <;> exact .zero _
      | finite positive small least full =>
          rw [zero_add]
          have second := Canonical.finite positive small least full
          exact ⟨_, second, .of_representable second.representable⟩
  | @finite mantissa exponent positive small least full =>
      cases second with
      | zero sign =>
          rw [add_zero]
          have first := Canonical.finite positive small least full
          exact ⟨_, first, .of_representable first.representable⟩
      | @finite mantissa' exponent' =>
          rcases normalize_nearest
            ((decreaseExponent mantissa exponent (min exponent exponent')).1 +
              (decreaseExponent mantissa' exponent' (min exponent exponent')).1)
            (min exponent exponent') with ⟨number, canonical, nearest⟩
          rw [Nat.cast_add, add_mul, decreaseExponent_value (min_le_left _ _),
            decreaseExponent_value (min_le_right _ _)] at nearest
          exact ⟨number, canonical, nearest⟩

theorem mul_nearest (first : Canonical left leftNumber) (second : Canonical right rightNumber) :
    ∃ number, Canonical (UnpackedFloat.mul .binary64 left right) number ∧
      Nearest (leftNumber * rightNumber) number := by
  have zero (sign : Sign) : Nearest 0 0 :=
    .of_representable (Canonical.zero sign).representable
  cases first with
  | zero sign =>
      rw [zero_mul]
      cases second with
      | zero other => exact ⟨0, .zero _, zero sign⟩
      | finite => exact ⟨0, .zero _, zero sign⟩
  | @finite mantissa exponent positive small least full =>
      cases second with
      | zero sign =>
          rw [mul_zero]
          exact ⟨0, .zero _, zero sign⟩
      | @finite mantissa' exponent' positive' small' least' full' =>
          have value : (mantissa : ℚ) * 2 ^ exponent * (mantissa' * 2 ^ exponent') =
              (mantissa * mantissa' : ℕ) * 2 ^ (exponent + exponent') := by
            rw [two_zpow_add]
            push_cast
            ring
          rw [value]
          apply roundWithAccuracy_nearest
          · rfl
          · rcases full with full | rfl
            · exact .inl (full.trans (Nat.le_mul_of_pos_right _ positive'))
            · rcases full' with full | rfl
              · exact .inl (full.trans (Nat.le_mul_of_pos_left _ positive))
              · exact .inr (by norm_num)

/-- How a fraction compares to one half says how a number of places goes on. -/
theorem describes_inexact {whole : ℕ} {fraction : ℚ} {order : Ordering} (positive : 0 < fraction)
    (less : fraction < 1) (compared : order.Compares fraction (1 / 2)) :
    Describes (.ofMantissaAndAccuracy whole (.inexact order)) (whole + fraction) := by
  cases order <;> simp only [Ordering.Compares] at compared <;>
    simp only [Describes, ExtendedMantissa.ofMantissaAndAccuracy]
  case lt => constructor <;> linarith
  case eq => rw [compared]
  case gt => constructor <;> linarith

section Fraction

variable {rest denominator : ℕ}

theorem compares_fraction {order : Ordering} (positive : 0 < denominator)
    (compared : order.Compares (2 * rest) denominator) :
    order.Compares ((rest : ℚ) / denominator) (1 / 2) := by
  have scale : (0 : ℚ) < denominator := by exact_mod_cast positive
  cases order <;> simp only [Ordering.Compares] at compared ⊢
  case lt =>
    have below : (2 * rest : ℚ) < denominator := by exact_mod_cast compared
    rw [div_lt_div_iff₀ scale (by norm_num)]
    linarith
  case eq =>
    have half : (2 * rest : ℚ) = denominator := by exact_mod_cast compared
    rw [div_eq_div_iff scale.ne' (by norm_num)]
    linarith
  case gt =>
    have above : (denominator : ℚ) < 2 * rest := by exact_mod_cast compared
    rw [gt_iff_lt, div_lt_div_iff₀ (by norm_num) scale]
    linarith

theorem describes_accuracyOfFraction (whole : ℕ) (less : rest < denominator) :
    Describes (.ofMantissaAndAccuracy whole (accuracyOfFraction rest denominator))
      (whole + rest / denominator) := by
  have positive : 0 < denominator := Nat.zero_lt_of_lt less
  have scale : (0 : ℚ) < denominator := by exact_mod_cast positive
  unfold accuracyOfFraction
  split
  · rename_i nothing
    rw [nothing, Nat.cast_zero, zero_div, add_zero]
    rfl
  · rename_i something
    have positiveRest : (0 : ℚ) < rest := by exact_mod_cast Nat.pos_of_ne_zero something
    have less : (rest : ℚ) < denominator := by exact_mod_cast less
    exact describes_inexact (div_pos positiveRest scale) ((div_lt_one scale).mpr less)
      (compares_fraction positive ((compare_iff _ _).mp rfl))

end Fraction

/-- What is left over in a division says how the quotient goes on. -/
theorem describes_div {numerator denominator : ℕ} (positive : 0 < denominator) :
    Describes (.ofMantissaAndAccuracy (numerator / denominator)
      (accuracyOfFraction (numerator % denominator) denominator)) (numerator / denominator) := by
  have scale : (0 : ℚ) < denominator := by exact_mod_cast positive
  have whole : (numerator : ℚ) =
      denominator * (numerator / denominator : ℕ) + (numerator % denominator : ℕ) := by
    exact_mod_cast (Nat.div_add_mod numerator denominator).symm
  have value : (numerator : ℚ) / denominator =
      (numerator / denominator : ℕ) + (numerator % denominator : ℕ) / denominator := by
    rw [div_eq_iff scale.ne', add_mul, div_mul_cancel₀ _ scale.ne', mul_comm]
    exact whole
  rw [value]
  exact describes_accuracyOfFraction _ (Nat.mod_lt _ positive)

section Quotient

variable {mantissa' : ℕ} {exponent' : ℤ}

/-- The place that a quotient is computed to: the one that its digits fill, the least one there is,
or the one it has without further zeros. -/
def quotientPlace (mantissa mantissa' : ℕ) (exponent exponent' : ℤ) : ℤ :=
  min (exponent - exponent')
    (max (mantissa.log2 + exponent - (mantissa'.log2 + exponent') - 53) (-1074))

/-- How many zeros the mantissa that is divided gets at its end. -/
def quotientZeros (mantissa mantissa' : ℕ) (exponent exponent' : ℤ) : ℕ :=
  (exponent - exponent' - quotientPlace mantissa mantissa' exponent exponent').toNat

theorem div_finite (positive : 0 < mantissa) (positive' : 0 < mantissa') :
    UnpackedFloat.div .binary64 (.finite .positive mantissa exponent positive)
      (.finite .positive mantissa' exponent' positive') =
    roundWithAccuracy .binary64 .positive
      (mantissa <<< quotientZeros mantissa mantissa' exponent exponent' / mantissa')
      (quotientPlace mantissa mantissa' exponent exponent')
      (accuracyOfFraction
        (mantissa <<< quotientZeros mantissa mantissa' exponent exponent' % mantissa')
        mantissa') := by
  have place : Format.binary64.targetExponent
      (totalExponent mantissa exponent - totalExponent mantissa' exponent') =
      max (mantissa.log2 + exponent - (mantissa'.log2 + exponent') - 53) (-1074) := by
    simp only [Format.targetExponent, totalExponent, Format.mantissaBits, Format.minExponent]
    norm_num
    omega
  simp only [UnpackedFloat.div, divCore, place]
  rfl

theorem quotient_value : (mantissa : ℚ) * 2 ^ exponent / (mantissa' * 2 ^ exponent') =
    (mantissa <<< quotientZeros mantissa mantissa' exponent exponent' : ℕ) / mantissa' *
      2 ^ quotientPlace mantissa mantissa' exponent exponent' := by
  have places : exponent - exponent' = quotientZeros mantissa mantissa' exponent exponent' +
      quotientPlace mantissa mantissa' exponent exponent' := by
    have least : quotientPlace mantissa mantissa' exponent exponent' ≤ exponent - exponent' :=
      min_le_left ..
    rw [quotientZeros, Int.toNat_of_nonneg (sub_nonneg.mpr least)]
    ring
  rw [Nat.shiftLeft_eq, mul_div_mul_comm, ← zpow_sub₀ (by norm_num), places, two_zpow_add,
    zpow_natCast]
  push_cast
  ring

/-- The quotient has enough digits to be rounded, if it is not cut off at the least place. -/
theorem quotient_full (positive : 0 < mantissa) (positive' : 0 < mantissa') :
    2 ^ 52 ≤ mantissa <<< quotientZeros mantissa mantissa' exponent exponent' / mantissa' ∨
      quotientPlace mantissa mantissa' exponent exponent' ≤ -1074 := by
  have enough : 52 + (mantissa'.log2 + 1) ≤
      mantissa.log2 + quotientZeros mantissa mantissa' exponent exponent' ∨
      quotientPlace mantissa mantissa' exponent exponent' ≤ -1074 := by
    unfold quotientZeros quotientPlace
    omega
  refine enough.imp (fun digits => ?_) id
  rw [Nat.le_div_iff_mul_le positive']
  calc 2 ^ 52 * mantissa' ≤ 2 ^ 52 * 2 ^ (mantissa'.log2 + 1) :=
        Nat.mul_le_mul_left _ Nat.lt_log2_self.le
    _ = 2 ^ (52 + (mantissa'.log2 + 1)) := (pow_add ..).symm
    _ ≤ _ := two_pow_le_shiftLeft positive digits

end Quotient

theorem div_nearest (first : Canonical left leftNumber) (second : Canonical right rightNumber)
    (nonzero : rightNumber ≠ 0) :
    ∃ number, Canonical (UnpackedFloat.div .binary64 left right) number ∧
      Nearest (leftNumber / rightNumber) number := by
  cases second with
  | zero => exact absurd rfl nonzero
  | finite positive' small' least' full' =>
      cases first with
      | zero sign =>
          rw [zero_div]
          exact ⟨0, .zero _, .of_representable (Canonical.zero sign).representable⟩
      | finite positive small least full =>
          rw [div_finite positive positive', quotient_value]
          exact roundWithAccuracy_nearest (describes_div positive')
            (quotient_full positive positive')

end Unpacked

/-! ### Floats -/

section Floats

variable {left right : Float} {leftNumber rightNumber exact : ℚ}

/-- A result that is nearest to a number that is not too large is not changed by packing. -/
theorem hasValue_of_nearest {unpacked : UnpackedFloat}
    (rounds : ∃ number, Canonical unpacked number ∧ Nearest exact number)
    (small : exact ≤ 2 ^ 64) :
    ∃ number, HasValue ⟨Float.Model.pack unpacked⟩ number ∧ Nearest exact number := by
  rcases rounds with ⟨number, canonical, nearest⟩
  refine ⟨number, hasValue_pack canonical ?_, nearest⟩
  have bound : Representable (2 ^ 64) :=
    ⟨1, 64, by norm_num, by norm_num, by rw [Nat.cast_one, one_mul]; rfl⟩
  exact (nearest.le_of_le bound small).trans_lt (pow_lt_pow_right₀ (by norm_num) (by norm_num))

theorem HasValue.add (first : HasValue left leftNumber) (second : HasValue right rightNumber)
    (small : leftNumber + rightNumber ≤ 2 ^ 64) :
    ∃ number, HasValue (left + right) number ∧ Nearest (leftNumber + rightNumber) number :=
  hasValue_of_nearest (add_nearest first second) small

theorem HasValue.mul (first : HasValue left leftNumber) (second : HasValue right rightNumber)
    (small : leftNumber * rightNumber ≤ 2 ^ 64) :
    ∃ number, HasValue (left * right) number ∧ Nearest (leftNumber * rightNumber) number :=
  hasValue_of_nearest (mul_nearest first second) small

theorem HasValue.div (first : HasValue left leftNumber) (second : HasValue right rightNumber)
    (nonzero : rightNumber ≠ 0) (small : leftNumber / rightNumber ≤ 2 ^ 64) :
    ∃ number, HasValue (left / right) number ∧ Nearest (leftNumber / rightNumber) number :=
  hasValue_of_nearest (div_nearest first second nonzero) small

/-! ### Constants -/

/-- How the number is written in binary64, as computation shows. -/
theorem hasValue_of_unpack {float : Float} {mantissa : ℕ} {exponent : ℤ} (positive : 0 < mantissa)
    (unpacked : float.toModel.unpack = .finite .positive mantissa exponent positive)
    (small : mantissa < 2 ^ 53) (full : 2 ^ 52 ≤ mantissa) (least : -1074 ≤ exponent) :
    HasValue float (mantissa * 2 ^ exponent) := by
  rw [HasValue, unpacked]
  exact .finite positive small least (.inl full)

theorem hasValue_zero : HasValue 0 0 := Canonical.zero .positive

theorem hasValue_one : HasValue 1 1 := by
  have hasValue : HasValue 1 ((2 ^ 52 : ℕ) * 2 ^ (-52 : ℤ)) :=
    hasValue_of_unpack (by norm_num) rfl (by norm_num) le_rfl (by norm_num)
  norm_num at hasValue
  exact hasValue

end Floats

/-! ### Decimal numbers -/

section Decimal

variable {digits places : ℕ}

theorem cast_le_of_small (small : digits < 2 ^ 53) : (digits : ℚ) ≤ 2 ^ 64 := by
  have fits : digits ≤ 2 ^ 64 := by omega
  exact_mod_cast fits

theorem hasValue_toFloat (small : digits < 2 ^ 53) : HasValue digits.toUInt64.toFloat digits := by
  have inWord : digits.toUInt64.toNat = digits := UInt64.toNat_ofNat_of_lt' (by
    change digits < 2 ^ 64
    omega)
  have converted : digits.toUInt64.toFloat =
      ⟨Float.Model.pack (UnpackedFloat.normalize .binary64 digits.toUInt64.toNat 0 .positive)⟩ := rfl
  have representable := representable_natCast small
  have rounds := normalize_nearest digits 0
  rw [zpow_zero, mul_one] at rounds
  rcases hasValue_of_nearest rounds (cast_le_of_small small) with ⟨number, hasValue, nearest⟩
  rw [converted, inWord]
  rwa [nearest.eq_of_representable representable] at hasValue

/-- A decimal number of few digits is read as a nearest number, where the power of ten that divides
them is exact. -/
theorem ofScientific_nearest (small : digits < 2 ^ 53)
    (few : places < Float.exactlyRepresentablePowersOfTen.size)
    (isPower : HasValue Float.exactlyRepresentablePowersOfTen[places] (10 ^ places)) :
    ∃ number, HasValue (Float.ofScientific digits true places) number ∧
      Nearest (digits / 10 ^ places) number := by
  rw [Float.ofScientific, dif_pos ⟨small, Nat.le_of_lt_succ few⟩]
  apply (hasValue_toFloat small).div isPower (by positivity)
  have power : (1 : ℚ) ≤ 10 ^ places := one_le_pow₀ (by norm_num)
  exact (div_le_self (Nat.cast_nonneg _) power).trans (cast_le_of_small small)

/-- A whole number of few digits is exact. -/
theorem hasValue_ofScientific_whole (small : digits < 2 ^ 53) :
    HasValue (Float.ofScientific digits true 0) digits := by
  have isPower : HasValue Float.exactlyRepresentablePowersOfTen[0] (10 ^ 0) := by
    rw [pow_zero]
    exact hasValue_one
  rcases ofScientific_nearest small (by decide) isPower with ⟨number, hasValue, nearest⟩
  rw [pow_zero, div_one] at nearest
  rwa [nearest.eq_of_representable (representable_natCast small)] at hasValue

theorem ofScientific_thousandths (small : digits < 2 ^ 53) :
    ∃ number, HasValue (Float.ofScientific digits true 3) number ∧
      Nearest (digits / 1000) number := by
  have isPower : HasValue Float.exactlyRepresentablePowersOfTen[3] (10 ^ 3) := by
    have hasValue : HasValue Float.exactlyRepresentablePowersOfTen[3]
        ((1000 * 2 ^ 43 : ℕ) * 2 ^ (-43 : ℤ)) :=
      hasValue_of_unpack (by norm_num) rfl (by norm_num) (by norm_num) (by norm_num)
    norm_num at hasValue ⊢
    exact hasValue
  rcases ofScientific_nearest small (by decide) isPower with ⟨number, hasValue, nearest⟩
  norm_num at nearest
  exact ⟨number, hasValue, nearest⟩

end Decimal

end ClusterOperator.Binary64
