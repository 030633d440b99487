import ClusterOperator.Proofs.Binary64.Rounding

/-!
# Binary64 in bits

A canonical number that is not too large is the same after it was packed into bits. The bits of a
number that is not negative give its mantissa and its exponent.
-/

namespace ClusterOperator.Binary64

open Float.Model Float.Model.UnpackedFloat

section Unpacking

variable {bits : BitVec 64}

/-- The leading digit of a mantissa is not in the bits. -/
theorem toNat_one_append (mantissa : BitVec 52) :
    (1#1 ++ mantissa).toNat = 2 ^ 52 + mantissa.toNat := by
  rw [BitVec.toNat_append, ← Nat.shiftLeft_add_eq_or_of_lt mantissa.isLt]
  rfl

theorem unpack_of_normal (nonzero : (@unpackExponent .binary64 bits).toNat ≠ 0)
    (finite : (@unpackExponent .binary64 bits).toNat ≠ 2047) :
    UnpackedFloat.unpack .binary64 bits =
      .finite (.ofBitVec (@unpackSign .binary64 bits))
        (2 ^ 52 + (@unpackMantissa .binary64 bits).toNat)
        ((@unpackExponent .binary64 bits).toNat - 1075) (by omega) := by
  have notOnes : @unpackExponent .binary64 bits ≠ -1#_ := fun same => finite (by rw [same]; rfl)
  have notZero : @unpackExponent .binary64 bits ≠ 0#_ := fun same => nonzero (by rw [same]; rfl)
  simp only [UnpackedFloat.unpack, if_neg notOnes, if_neg notZero, toNat_one_append]
  rfl

theorem unpack_of_subnormal (zero : (@unpackExponent .binary64 bits).toNat = 0)
    (positive : 0 < (@unpackMantissa .binary64 bits).toNat) :
    UnpackedFloat.unpack .binary64 bits =
      .finite (.ofBitVec (@unpackSign .binary64 bits)) (@unpackMantissa .binary64 bits).toNat
        (-1074) positive := by
  have isZero : @unpackExponent .binary64 bits = 0#_ := BitVec.eq_of_toNat_eq zero
  have notZero : @unpackMantissa .binary64 bits ≠ 0#_ := by
    intro same
    rw [same] at positive
    exact absurd positive (by decide)
  simp only [UnpackedFloat.unpack, isZero, if_neg (show ¬ (0#_ : BitVec 11) = -1#_ by decide),
    dif_neg notZero]
  rfl

theorem unpack_of_zero (zero : (@unpackExponent .binary64 bits).toNat = 0)
    (nothing : (@unpackMantissa .binary64 bits).toNat = 0) :
    UnpackedFloat.unpack .binary64 bits = .zero (.ofBitVec (@unpackSign .binary64 bits)) := by
  have isZero : @unpackExponent .binary64 bits = 0#_ := BitVec.eq_of_toNat_eq zero
  have isNothing : @unpackMantissa .binary64 bits = 0#_ := BitVec.eq_of_toNat_eq nothing
  simp only [UnpackedFloat.unpack, isZero, if_neg (show ¬ (0#_ : BitVec 11) = -1#_ by decide),
    isNothing]
  rfl

theorem unpackExponent_toNat :
    (@unpackExponent .binary64 bits).toNat = bits.toNat / 2 ^ 52 % 2048 := by
  simp only [unpackExponent, BitVec.toNat_cast, BitVec.extractLsb_toNat, Nat.shiftRight_eq_div_pow]

theorem unpackMantissa_toNat :
    (@unpackMantissa .binary64 bits).toNat = bits.toNat % 2 ^ 52 := by
  simp only [unpackMantissa, BitVec.toNat_cast, BitVec.extractLsb_toNat, Nat.shiftRight_zero]

end Unpacking

/-! ### Packing -/

/-- The exponent of a number that is not too large. -/
theorem exponent_le_of_small {mantissa : ℕ} {exponent : ℤ} (full : 2 ^ 52 ≤ mantissa)
    (small : (mantissa : ℚ) * 2 ^ exponent < 2 ^ 1024) : exponent ≤ 971 := by
  have scale := two_zpow_pos exponent
  have full : (2 : ℚ) ^ 52 ≤ mantissa := by exact_mod_cast full
  have less : (2 : ℚ) ^ (52 + exponent) < 2 ^ (1024 : ℤ) := by
    rw [two_zpow_add]
    exact (mul_le_mul_of_nonneg_right full scale.le).trans_lt (by exact_mod_cast small)
  have exponents := (zpow_lt_zpow_iff_right₀ (by norm_num : (1 : ℚ) < 2)).mp less
  omega

section Packing

variable {sign : Sign} {mantissa : ℕ} {exponent : ℤ}

theorem log2_eq_of_full (full : 2 ^ 52 ≤ mantissa) (small : mantissa < 2 ^ 53) :
    mantissa.log2 = 52 :=
  (Nat.log2_eq_iff (by omega)).mpr ⟨full, small⟩

theorem unpack_pack_of_normal (positive : 0 < mantissa) (full : 2 ^ 52 ≤ mantissa)
    (small : mantissa < 2 ^ 53) (least : -1074 ≤ exponent) (notLarge : exponent ≤ 971) :
    UnpackedFloat.unpack .binary64 (UnpackedFloat.pack .binary64
      (.finite sign mantissa exponent positive)) = .finite sign mantissa exponent positive := by
  obtain ⟨biased, isBiased⟩ : ∃ biased : ℕ, (biased : ℤ) = exponent + 1075 :=
    ⟨(exponent + 1075).toNat, by omega⟩
  have packed : UnpackedFloat.pack .binary64 (.finite sign mantissa exponent positive) =
      packComponents .binary64 sign (BitVec.ofNat 11 biased) (BitVec.ofNat 52 mantissa) := by
    have same : (exponent + ((Format.binary64.exponentBias : ℕ) : ℤ) + ((52 : ℕ) : ℤ)).toNat =
        biased := by
      have bias : Format.binary64.exponentBias = 1023 := rfl
      rw [bias]
      omega
    simp only [UnpackedFloat.pack, same]
    rw [if_neg (by norm_num; omega), if_pos (by rw [log2_eq_of_full full small]; rfl)]
  have isExponent : (BitVec.ofNat 11 biased).toNat = biased := by
    rw [BitVec.toNat_ofNat]
    exact Nat.mod_eq_of_lt (by omega)
  have isMantissa : 2 ^ 52 + (BitVec.ofNat 52 mantissa).toNat = mantissa := by
    rw [BitVec.toNat_ofNat]
    omega
  rw [packed, unpack_of_normal]
  · simp only [unpackExponent_packComponents, unpackMantissa_packComponents,
      unpackSign_packComponents, Sign.ofBitVec_toBitVec, isExponent, isMantissa]
    congr 1
    omega
  · rw [unpackExponent_packComponents, isExponent]
    omega
  · rw [unpackExponent_packComponents, isExponent]
    omega

theorem unpack_pack_of_subnormal (positive : 0 < mantissa) (small : mantissa < 2 ^ 52) :
    UnpackedFloat.unpack .binary64 (UnpackedFloat.pack .binary64
      (.finite sign mantissa (-1074) positive)) = .finite sign mantissa (-1074) positive := by
  have packed : UnpackedFloat.pack .binary64 (.finite sign mantissa (-1074) positive) =
      packComponents .binary64 sign 0#11 (BitVec.ofNat 52 mantissa) := by
    have digits : mantissa.log2 ≤ 51 := log2_le_of_lt small
    simp only [UnpackedFloat.pack]
    rw [if_neg (by decide), if_neg (by change ¬ mantissa.log2 + 1 = 53; omega)]
  have isMantissa : (BitVec.ofNat 52 mantissa).toNat = mantissa := by
    rw [BitVec.toNat_ofNat]
    exact Nat.mod_eq_of_lt small
  rw [packed, unpack_of_subnormal]
  · simp only [unpackMantissa_packComponents, unpackSign_packComponents, Sign.ofBitVec_toBitVec,
      isMantissa]
  · rw [unpackExponent_packComponents]
    rfl
  · rw [unpackMantissa_packComponents, isMantissa]
    exact positive

end Packing

theorem unpack_pack_of_canonical {unpacked : UnpackedFloat} {number : ℚ}
    (canonical : Canonical unpacked number) (small : number < 2 ^ 1024) :
    UnpackedFloat.unpack .binary64 (UnpackedFloat.pack .binary64 unpacked) = unpacked := by
  cases canonical with
  | zero sign => cases sign <;> rfl
  | @finite mantissa exponent positive digits least full =>
      rcases Nat.lt_or_ge mantissa (2 ^ 52) with few | many
      · rcases full with full | rfl
        · omega
        · exact unpack_pack_of_subnormal positive few
      · exact unpack_pack_of_normal positive many digits least (exponent_le_of_small many small)

/-! ### Floats -/

/-- A binary64 number that is finite and not negative, and which number it is. -/
def HasValue (float : Float) (number : ℚ) : Prop := Canonical float.toModel.unpack number

theorem hasValue_pack {unpacked : UnpackedFloat} {number : ℚ}
    (canonical : Canonical unpacked number) (small : number < 2 ^ 1024) :
    HasValue ⟨Float.Model.pack unpacked⟩ number := by
  change Canonical (UnpackedFloat.unpack .binary64 (UnpackedFloat.pack .binary64 unpacked)) number
  rw [unpack_pack_of_canonical canonical small]
  exact canonical

section Bits

variable {float : Float} {number : ℚ} {sign : Sign} {mantissa : ℕ} {exponent : ℤ}

theorem canonical_zero_iff : Canonical (.zero sign) number ↔ number = 0 := by
  constructor
  · rintro ⟨⟩
    rfl
  · rintro rfl
    exact .zero sign

theorem canonical_finite_iff {positive : 0 < mantissa} :
    Canonical (.finite sign mantissa exponent positive) number ↔
      sign = .positive ∧ mantissa < 2 ^ 53 ∧ -1074 ≤ exponent ∧
        (2 ^ 52 ≤ mantissa ∨ exponent = -1074) ∧ number = mantissa * 2 ^ exponent := by
  constructor
  · rintro ⟨⟩
    rename_i small least full
    exact ⟨rfl, small, least, full, rfl⟩
  · rintro ⟨rfl, small, least, full, rfl⟩
    exact .finite positive small least full

theorem toModel_unpack (float : Float) :
    float.toModel.unpack = UnpackedFloat.unpack .binary64 float.toBits.toBitVec := rfl

theorem not_lt_zero_iff : ¬ float < 0 ↔ float.toModel.unpack.lt (.zero .positive) = false := by
  have isZero : (0 : Float).toModel.unpack = .zero .positive := rfl
  have unfolded : float < 0 ↔ float.toModel.unpack.lt (0 : Float).toModel.unpack = true :=
    decide_eq_true_iff
  rw [unfolded, isZero, Bool.not_eq_true]

theorem lt_zero_finite {positive : 0 < mantissa} :
    (UnpackedFloat.finite sign mantissa exponent positive).lt (.zero .positive) = false ↔
      sign = .positive := by
  cases sign
  · exact iff_of_false (by simp [UnpackedFloat.lt, UnpackedFloat.compare]) (by simp)
  · exact iff_of_true rfl rfl

theorem HasValue.not_lt_zero (hasValue : HasValue float number) : ¬ float < 0 := by
  rw [not_lt_zero_iff]
  unfold HasValue at hasValue
  generalize float.toModel.unpack = unpacked at hasValue
  cases hasValue with
  | zero sign => rfl
  | finite => rfl

/-- Where the exponent is not the least one, the mantissa has a leading digit that is not stored. -/
theorem hasValue_iff_of_normal (nonzero : float.toBits.toNat / 2 ^ 52 % 2048 ≠ 0)
    (finite : float.toBits.toNat / 2 ^ 52 % 2048 ≠ 2047) :
    HasValue float number ↔ ¬ float < 0 ∧
      number = (2 ^ 52 + float.toBits.toNat % 2 ^ 52 : ℕ) *
        2 ^ ((float.toBits.toNat / 2 ^ 52 % 2048 : ℕ) - 1075 : ℤ) := by
  have unpacked := @unpack_of_normal float.toBits.toBitVec
    (by rw [unpackExponent_toNat]; exact nonzero) (by rw [unpackExponent_toNat]; exact finite)
  simp only [unpackExponent_toNat, unpackMantissa_toNat, UInt64.toNat_toBitVec] at unpacked
  have small : 2 ^ 52 + float.toBits.toNat % 2 ^ 52 < 2 ^ 53 := by omega
  have least : -1074 ≤ ((float.toBits.toNat / 2 ^ 52 % 2048 : ℕ) - 1075 : ℤ) := by omega
  rw [HasValue, not_lt_zero_iff, toModel_unpack, unpacked, canonical_finite_iff, lt_zero_finite]
  simp only [small, least, Nat.le_add_right, true_or, true_and]

/-- With the least exponent, the mantissa is what is stored. -/
theorem hasValue_iff_of_subnormal (zero : float.toBits.toNat / 2 ^ 52 % 2048 = 0) :
    HasValue float number ↔ ¬ float < 0 ∧
      number = (float.toBits.toNat % 2 ^ 52 : ℕ) * 2 ^ (-1074 : ℤ) := by
  rw [HasValue, not_lt_zero_iff, toModel_unpack]
  rcases Nat.eq_zero_or_pos (float.toBits.toNat % 2 ^ 52) with nothing | positive
  · have unpacked := @unpack_of_zero float.toBits.toBitVec (by rw [unpackExponent_toNat]; exact zero)
      (by rw [unpackMantissa_toNat]; exact nothing)
    have notLess (sign : Sign) : (UnpackedFloat.zero sign).lt (.zero .positive) = false := rfl
    rw [unpacked, canonical_zero_iff, notLess, nothing]
    simp
  · have unpacked := @unpack_of_subnormal float.toBits.toBitVec
      (by rw [unpackExponent_toNat]; exact zero) (by rw [unpackMantissa_toNat]; exact positive)
    simp only [unpackMantissa_toNat, UInt64.toNat_toBitVec] at unpacked
    have small : float.toBits.toNat % 2 ^ 52 < 2 ^ 53 := by omega
    rw [unpacked, canonical_finite_iff, lt_zero_finite]
    simp only [small, le_refl, or_true, true_and]

theorem not_hasValue_of_infinite (infinite : float.toBits.toNat / 2 ^ 52 % 2048 = 2047) :
    ¬ HasValue float number := by
  have ones : @unpackExponent .binary64 float.toBits.toBitVec = -1#_ := by
    apply BitVec.eq_of_toNat_eq
    rw [unpackExponent_toNat]
    exact infinite
  rw [HasValue, toModel_unpack]
  simp only [UnpackedFloat.unpack, ones, if_pos]
  split
  · rintro ⟨⟩
  · rintro ⟨⟩

end Bits

end ClusterOperator.Binary64
