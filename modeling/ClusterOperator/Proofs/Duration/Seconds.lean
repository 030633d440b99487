import ClusterOperator.Proofs.Binary64.Arithmetic
import ClusterOperator.Proofs.Duration.Rounding

/-!
# Durations from binary64

Which duration a binary64 number of seconds stands for depends on the number only: it is the nearest
whole number of nanoseconds, and the even one of two. Everything that stands for a duration is a
number that is not negative.
-/

namespace ClusterOperator.Duration

open Binary64

section Nanoseconds

variable {mantissa exponent : ℕ}

theorem nearestNanoseconds_isRounded (mantissa exponent : ℕ) :
    IsRounded (mantissa * 2 ^ (exponent - 1075 : ℤ) * 1_000_000_000)
      (nearestNanoseconds mantissa exponent) := by
  unfold nearestNanoseconds
  split
  · rename_i large
    have places : (exponent - 1075 : ℤ) = (exponent - 1075 : ℕ) := by omega
    have value : (mantissa : ℚ) * 2 ^ (exponent - 1075 : ℤ) * 1_000_000_000 =
        (mantissa * Nat.pow 2 (exponent - 1075) * 1_000_000_000 : ℕ) := by
      rw [places, zpow_natCast]
      push_cast [Nat.pow_eq]
      rfl
    rw [value]
    exact .of_whole _
  · rename_i small
    have places : (exponent - 1075 : ℤ) = -(1075 - exponent : ℕ) := by omega
    have value : (mantissa : ℚ) * 2 ^ (exponent - 1075 : ℤ) * 1_000_000_000 =
        (mantissa * 1_000_000_000 : ℕ) / (Nat.pow 2 (1075 - exponent) : ℕ) := by
      rw [places, zpow_neg, zpow_natCast]
      push_cast [Nat.pow_eq]
      ring
    rw [value]
    exact roundDivEven_isRounded (Nat.two_pow_pos _)

end Nanoseconds

variable {seconds : Float} {number : ℚ} {span : Duration}

/-- A number of seconds stands for the nearest number of nanoseconds, if that is in range. -/
theorem ofSeconds?_of_hasValue (hasValue : HasValue seconds number) :
    ∃ nanoseconds, ofSeconds? seconds = ofNanoseconds? nanoseconds ∧
      IsRounded (number * 1_000_000_000) nanoseconds := by
  unfold ofSeconds?
  rw [if_neg hasValue.not_lt_zero]
  dsimp only
  split
  · rename_i infinite
    exact absurd hasValue (not_hasValue_of_infinite infinite)
  · rename_i zero
    refine ⟨_, rfl, ?_⟩
    rw [((hasValue_iff_of_subnormal zero).mp hasValue).2]
    exact nearestNanoseconds_isRounded _ 1
  · rename_i finite nonzero
    refine ⟨_, rfl, ?_⟩
    rw [((hasValue_iff_of_normal nonzero finite).mp hasValue).2]
    exact nearestNanoseconds_isRounded _ _

/-- What stands for a duration is finite and not negative. -/
theorem exists_hasValue_of_ofSeconds? (isSpan : ofSeconds? seconds = some span) :
    ∃ number, HasValue seconds number := by
  unfold ofSeconds? at isSpan
  split at isSpan
  · cases isSpan
  · rename_i notNegative
    dsimp only at isSpan
    split at isSpan
    · cases isSpan
    · rename_i zero
      exact ⟨_, (hasValue_iff_of_subnormal zero).mpr ⟨notNegative, rfl⟩⟩
    · rename_i finite nonzero
      exact ⟨_, (hasValue_iff_of_normal nonzero finite).mpr ⟨notNegative, rfl⟩⟩

theorem isRounded_of_ofSeconds? (isSpan : ofSeconds? seconds = some span)
    (hasValue : HasValue seconds number) : IsRounded (number * 1_000_000_000) span.nanoseconds := by
  rcases ofSeconds?_of_hasValue hasValue with ⟨nanoseconds, is, rounded⟩
  rw [is, ofNanoseconds?] at isSpan
  split at isSpan
  · cases isSpan
    exact rounded
  · cases isSpan

/-- A number of seconds that rounds to the nanoseconds of a duration stands for it. -/
theorem ofSeconds?_eq_some (hasValue : HasValue seconds number)
    (rounded : IsRounded (number * 1_000_000_000) span.nanoseconds) :
    ofSeconds? seconds = some span := by
  rcases ofSeconds?_of_hasValue hasValue with ⟨nanoseconds, is, same⟩
  rw [is, same.unique rounded, ofNanoseconds?, dif_pos span.bounded]

end ClusterOperator.Duration
