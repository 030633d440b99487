import ClusterOperator.Duration.Text
import ClusterOperator.Proofs.Duration.Grammar
import ClusterOperator.Proofs.Duration.Seconds
import ClusterOperator.Proofs.Instant.Text

/-!
# Terms of written durations

The text of a duration is a sequence of terms. The reader adds up the hours and minutes without any
error, then takes the sum to the binary64 number that is nearest to a very close one.
-/

namespace ClusterOperator.Duration

open Binary64 Text

/-! ### Sums of whole numbers -/

section Sums

variable {sum scale : Float} {before factor : ℕ} {number : ℚ}

theorem hasValue_hour : HasValue 3600 (3600 : ℕ) := by
  have hasValue : HasValue 3600 ((225 * 2 ^ 45 : ℕ) * 2 ^ (-41 : ℤ)) :=
    hasValue_of_unpack (by norm_num) rfl (by norm_num) (by norm_num) (by norm_num)
  norm_num at hasValue ⊢
  exact hasValue

theorem hasValue_minute : HasValue 60 (60 : ℕ) := by
  have hasValue : HasValue 60 ((15 * 2 ^ 49 : ℕ) * 2 ^ (-47 : ℤ)) :=
    hasValue_of_unpack (by norm_num) rfl (by norm_num) (by norm_num) (by norm_num)
  norm_num at hasValue ⊢
  exact hasValue

/-- Where the numbers are representable, a term is added exactly. -/
theorem hasValue_add_whole (whole : ℕ) (isSum : HasValue sum before)
    (isScale : HasValue scale factor) (small : whole < 2 ^ 53)
    (product : Representable (whole * factor : ℕ))
    (result : Representable (before + whole * factor : ℕ)) (fits : before + whole * factor ≤ 2 ^ 64) :
    HasValue (sum + Float.ofScientific whole true 0 * scale) (before + whole * factor : ℕ) := by
  have fits : (before + whole * factor : ℚ) ≤ 2 ^ 64 := by exact_mod_cast fits
  have positive : (0 : ℚ) ≤ before := Nat.cast_nonneg _
  push_cast at product result ⊢
  rcases (hasValue_ofScientific_whole small).mul isScale (by linarith) with
    ⟨number, isProduct, nearest⟩
  rw [nearest.eq_of_representable product] at isProduct
  rcases isSum.add isProduct fits with ⟨number, isResult, nearest⟩
  rwa [nearest.eq_of_representable result] at isResult

theorem hasValue_mul_one {float : Float} (hasValue : HasValue float number) (small : number ≤ 2 ^ 64) :
    HasValue (float * 1) number := by
  rcases hasValue.mul hasValue_one (by rwa [mul_one]) with ⟨same, isProduct, nearest⟩
  rw [mul_one] at nearest
  rwa [nearest.eq_of_representable hasValue.representable] at isProduct

theorem hasValue_zero_add {float : Float} (hasValue : HasValue float number)
    (small : number ≤ 2 ^ 64) : HasValue (0 + float) number := by
  rcases hasValue_zero.add hasValue (by rwa [zero_add]) with ⟨same, isSum, nearest⟩
  rw [zero_add] at nearest
  rwa [nearest.eq_of_representable hasValue.representable] at isSum

/-- A thousandth is not exact, but up to a thousand of them make nearly as many milliseconds. -/
theorem hasValue_milliseconds {millis : ℕ} (few : millis < 1000) : ∃ exact number,
    HasValue (0 + Float.ofScientific millis true 0 * 0.001) number ∧ Nearest exact number ∧
      0 ≤ exact ∧ |exact - millis / 1000| ≤ 2 ^ (-48 : ℤ) := by
  have one : (1 : ℕ) < 2 ^ 53 := by norm_num
  rcases ofScientific_thousandths one with ⟨thousandth, isThousandth, near⟩
  have error := near.error_le (-62) (by norm_num) (by norm_num) (by norm_num)
  have below : thousandth ≤ (1 : ℕ) :=
    near.le_of_le (representable_natCast (by norm_num)) (by norm_num)
  have least : 0 ≤ thousandth := near.representable.nonneg
  have count : (millis : ℚ) ≤ 1000 := by exact_mod_cast few.le
  have product : millis * thousandth ≤ (1000 : ℕ) := by
    calc millis * thousandth ≤ 1000 * 1 := by
          push_cast at below
          exact mul_le_mul count below least (by norm_num)
      _ = (1000 : ℕ) := by norm_num
  have isCount := hasValue_ofScientific_whole (show millis < 2 ^ 53 by omega)
  rcases isCount.mul isThousandth (product.trans (by norm_num)) with ⟨number, hasValue, nearest⟩
  have small := nearest.le_of_le (representable_natCast (by norm_num)) product
  refine ⟨_, number, hasValue_zero_add hasValue (small.trans (by norm_num)), nearest,
    mul_nonneg (Nat.cast_nonneg _) least, ?_⟩
  have scaled : millis * thousandth - millis / 1000 = millis * (thousandth - (1 : ℕ) / 1000) := by
    push_cast
    ring
  rw [scaled, abs_mul, abs_of_nonneg (Nat.cast_nonneg _)]
  calc (millis : ℚ) * |thousandth - (1 : ℕ) / 1000| ≤ 1000 * (2 ^ (-62 : ℤ) / 2) :=
        mul_le_mul count error (abs_nonneg _) (by norm_num)
    _ ≤ 2 ^ (-48 : ℤ) := by norm_num

end Sums

/-! ### Text -/

section Text

variable {sum scale total : Float} {unit rest : List Char} {seconds millis : ℕ}

theorem spells_toString (whole : ℕ) : Spells (toString whole).toList whole := by
  have same : padded 0 whole = toString whole := by
    simp [padded]
  rw [← same]
  exact spells_padded 0 whole

theorem Terms.whole (count : ℕ) (isUnit : IsUnit unit scale)
    (terms : Terms (sum + Float.ofScientific count true 0 * scale) rest total) :
    Terms sum ((toString count).toList ++ (unit ++ rest)) total := by
  have spells := spells_toString count
  rw [← spells.value_eq] at terms
  exact .term (.whole spells.isDigit spells.isSome) isUnit terms

/-- The hours and minutes in front of the seconds, as far as there are any. -/
def hoursAndMinutes (seconds : ℕ) : String :=
  if 0 < seconds / 3600 then
    toString (seconds / 3600) ++ "h" ++ toString (seconds % 3600 / 60) ++ "m"
  else if 0 < seconds % 3600 / 60 then toString (seconds % 3600 / 60) ++ "m"
  else ""

/-- The number of seconds beyond whole minutes. -/
def decimalSeconds (seconds millis : ℕ) : String :=
  toString seconds ++ if 0 < millis then "." ++ padded 3 millis else ""

theorem toText_eq (span : Duration) : span.toText =
    if span.seconds = 0 ∧ 0 < span.subsecondNanos / 1_000_000 then
      toString (span.subsecondNanos / 1_000_000) ++ "ms"
    else hoursAndMinutes span.seconds ++
      decimalSeconds (span.seconds % 60) (span.subsecondNanos / 1_000_000) ++ "s" := by
  unfold toText
  dsimp only
  split
  · rename_i nothing
    rw [nothing.1, nothing.2]
    rfl
  · rename_i something
    by_cases noSeconds : span.seconds = 0
    · have someMillis : 0 < span.subsecondNanos / 1_000_000 :=
        Nat.pos_of_ne_zero fun none => something ⟨noSeconds, none⟩
      rw [if_pos noSeconds, if_pos ⟨noSeconds, someMillis⟩]
    · have notShort : ¬ (span.seconds = 0 ∧ 0 < span.subsecondNanos / 1_000_000) :=
        fun short => noSeconds short.1
      rw [if_neg noSeconds, if_neg notShort, decimalSeconds, ← String.append_assoc]
      rfl

/-- Hours and minutes are added up exactly, if they are not too many. -/
theorem terms_hoursAndMinutes (small : seconds < 2 ^ 55) : ∃ sum,
    HasValue sum (seconds / 60 * 60 : ℕ) ∧ ∀ rest total, Terms sum rest total →
      Terms 0 ((hoursAndMinutes seconds).toList ++ rest) total := by
  have isZero : HasValue 0 (0 : ℕ) := by exact_mod_cast hasValue_zero
  have minutes : seconds / 60 * 60 = seconds / 3600 * 3600 + seconds % 3600 / 60 * 60 := by omega
  have fours {number : ℕ} (multiple : 2 ^ 2 ∣ number) (le : number ≤ seconds) :
      Representable number :=
    representable_of_dvd multiple (by omega)
  unfold hoursAndMinutes
  split
  · have hours := hasValue_add_whole (seconds / 3600) isZero hasValue_hour (by omega)
      (fours (by omega) (by omega)) (fours (by omega) (by omega)) (by omega)
    rw [Nat.zero_add] at hours
    have sum := hasValue_add_whole (seconds % 3600 / 60) hours hasValue_minute (by omega)
      (fours (by omega) (by omega)) (fours (by omega) (by omega)) (by omega)
    rw [← minutes] at sum
    refine ⟨_, sum, fun rest total terms => ?_⟩
    simp only [String.toList_append, List.append_assoc]
    exact .whole _ .hour (.whole _ .minute terms)
  · rename_i noHours
    split
    · have sum := hasValue_add_whole (seconds % 3600 / 60) isZero hasValue_minute
        (by omega) (fours (by omega) (by omega)) (fours (by omega) (by omega)) (by omega)
      have same : 0 + seconds % 3600 / 60 * 60 = seconds / 60 * 60 := by omega
      rw [same] at sum
      refine ⟨_, sum, fun rest total terms => ?_⟩
      simp only [String.toList_append, List.append_assoc]
      exact .whole _ .minute terms
    · have same : seconds / 60 * 60 = 0 := by omega
      rw [same]
      exact ⟨0, isZero, fun rest total terms => terms⟩

theorem spells_append {front back : List Char} {value rest : ℕ} (spells : Spells front value)
    (more : Spells back rest) : Spells (front ++ back) (value * 10 ^ back.length + rest) where
  isSome := List.append_ne_nil_of_left_ne_nil spells.isSome back
  isDigit := by
    intro c there
    rcases List.mem_append.mp there with there | there
    · exact spells.isDigit c there
    · exact more.isDigit c there
  value_eq := by
    have front := spells.value_eq
    have back := more.value_eq
    rw [decimalValue_eq] at front back ⊢
    rw [Nat.ofDigitChars_append, front, Nat.ofDigitChars_eq_ofDigitChars_zero, back, Nat.mul_comm]

theorem numeral_thousandths (few : millis < 1000) :
    ∃ digits, Numeral (toString seconds ++ ("." ++ padded 3 millis)).toList digits 3 ∧
      decimalValue digits = seconds * 10 ^ 3 + millis := by
  have three := length_padded (show 0 < 3 by decide) few
  have both := spells_append (spells_toString seconds) (spells_padded 3 millis)
  have numeral := Numeral.decimal both.isDigit both.isSome
  have text : (toString seconds ++ ("." ++ padded 3 millis)).toList =
      (toString seconds).toList ++ '.' :: (padded 3 millis).toList := by
    simp
  rw [three] at both numeral
  exact ⟨_, by rwa [text], both.value_eq⟩

/-- Seconds with three decimals are read as a number that is very close. -/
theorem terms_thousandths (less : seconds < 60) (few : millis < 1000) : ∃ value number,
    HasValue value number ∧ number ≤ 61 ∧
      |number - (seconds + millis / 1000)| ≤ 2 ^ (-48 : ℤ) ∧
      ∀ sum, Terms sum ((toString seconds ++ ("." ++ padded 3 millis)).toList ++ ['s'])
        (sum + value) := by
  rcases @numeral_thousandths seconds millis few with ⟨digits, numeral, isValue⟩
  have less' : (seconds : ℚ) < 60 := by exact_mod_cast less
  have few' : (millis : ℚ) < 1000 := by exact_mod_cast few
  have exact : ((seconds * 10 ^ 3 + millis : ℕ) : ℚ) / 1000 = seconds + millis / 1000 := by
    push_cast
    ring
  have short : seconds * 10 ^ 3 + millis < 2 ^ 53 := by omega
  rcases ofScientific_thousandths short with ⟨number, hasValue, nearest⟩
  rw [exact] at nearest
  have below : number ≤ (61 : ℕ) := by
    refine nearest.le_of_le (representable_natCast (by norm_num)) ?_
    push_cast
    linarith
  push_cast at below
  refine ⟨_, number, hasValue_mul_one hasValue (below.trans (by norm_num)), below, ?_, fun sum => ?_⟩
  · have small : (seconds + millis / 1000 : ℚ) ≤ 2 ^ (-47 + 53 : ℤ) := by
      norm_num
      linarith
    have error := nearest.error_le (-47) (by positivity) small (by norm_num)
    have halved : (2 : ℚ) ^ (-47 : ℤ) / 2 = 2 ^ (-48 : ℤ) := by norm_num
    rwa [halved] at error
  · rw [← isValue]
    exact .term numeral .second (.nil _)

/-- The seconds beyond whole minutes are read as a number that is very close. -/
theorem terms_decimalSeconds (less : seconds < 60) (few : millis < 1000) : ∃ value number,
    HasValue value number ∧ number ≤ 61 ∧
      |number - (seconds + millis / 1000)| ≤ 2 ^ (-48 : ℤ) ∧
      ∀ sum, Terms sum ((decimalSeconds seconds millis).toList ++ ['s']) (sum + value) := by
  unfold decimalSeconds
  split
  · exact terms_thousandths less few
  · rename_i none
    have exact : millis = 0 := by omega
    have less' : (seconds : ℚ) < 60 := by exact_mod_cast less
    have hasValue := hasValue_ofScientific_whole (show seconds < 2 ^ 53 by omega)
    refine ⟨_, seconds, hasValue_mul_one hasValue (by linarith), by linarith, ?_, fun sum => ?_⟩
    · rw [exact, Nat.cast_zero, zero_div, add_zero, sub_self, abs_zero]
      positivity
    · rw [String.append_empty]
      exact .whole _ .second (.nil _)

/-- The text of a duration is read as the binary64 number that is nearest to a very close one. -/
theorem exists_terms_toText {span : Duration} (small : span.seconds < 2 ^ 55) :
    ∃ total exact number, Terms 0 span.toText.toList total ∧ HasValue total number ∧
      Nearest exact number ∧ 0 ≤ exact ∧ |exact - span.milliseconds / 1000| ≤ 2 ^ (-48 : ℤ) := by
  have few : span.subsecondNanos / 1_000_000 < 1000 := by
    unfold subsecondNanos
    omega
  rw [toText_eq]
  split
  · rename_i short
    rcases hasValue_milliseconds few with ⟨exact, number, hasValue, nearest, nonnegative, near⟩
    have all : span.milliseconds = span.subsecondNanos / 1_000_000 := by
      have none := short.1
      unfold seconds at none
      unfold milliseconds subsecondNanos
      omega
    rw [all]
    refine ⟨_, exact, number, ?_, hasValue, nearest, nonnegative, near⟩
    rw [String.toList_append]
    exact .whole _ .millisecond (.nil _)
  · rcases terms_hoursAndMinutes small with ⟨sum, isSum, front⟩
    rcases terms_decimalSeconds (Nat.mod_lt span.seconds (by decide : 60 > 0)) few with
      ⟨value, rest, isRest, below, near, last⟩
    have most : ((span.seconds / 60 * 60 : ℕ) : ℚ) ≤ 2 ^ 55 := by
      have most : span.seconds / 60 * 60 ≤ 2 ^ 55 := by omega
      exact_mod_cast most
    rcases isSum.add isRest (by linarith) with ⟨number, hasValue, nearest⟩
    have all : (span.milliseconds : ℚ) / 1000 = (span.seconds / 60 * 60 : ℕ) +
        ((span.seconds % 60 : ℕ) + (span.subsecondNanos / 1_000_000 : ℕ) / 1000) := by
      have parts : span.milliseconds = (span.seconds / 60 * 60 + span.seconds % 60) * 1000 +
          span.subsecondNanos / 1_000_000 := by
        unfold milliseconds seconds subsecondNanos
        omega
      rw [parts]
      push_cast
      ring
    refine ⟨_, _, number, ?_, hasValue, nearest,
      add_nonneg (Nat.cast_nonneg _) isRest.representable.nonneg, ?_⟩
    · rw [String.toList_append, String.toList_append, List.append_assoc]
      exact front _ _ (last sum)
    · rw [all, add_sub_add_left_eq_sub]
      exact near

end Text

end ClusterOperator.Duration
