import ClusterOperator.Backoff
import ClusterOperator.Proofs.Duration.Rounding

/-!
# Delays after failures

With exact numbers of seconds, the delay after a number of failures is the doubled one times the
random factor, and at most the longest one, to the nearest nanosecond. There is one for every number
of failures, every random factor and every longest delay, because doubling stops in time.
-/

namespace ClusterOperator

/-! ### Exact numbers -/

/-- Exact numbers of seconds, which stand for the nearest whole number of nanoseconds. -/
def exactSeconds : SecondsArithmetic ℚ where
  one := 1
  mul := (· * ·)
  min := min
  ofDuration span := span.nanoseconds / 1_000_000_000
  toDuration? seconds :=
    if seconds < 0 then none
    else Duration.ofNanoseconds?
      (roundDivEven (seconds.num.toNat * 1_000_000_000) seconds.den)

theorem exactSeconds_toDuration? {seconds : ℚ} (least : 0 ≤ seconds)
    (most : seconds < UInt64.size - 1) :
    ∃ span, exactSeconds.toDuration? seconds = some span ∧
      |exactSeconds.ofDuration span - seconds| ≤ 1 / 2_000_000_000 := by
  have rounded := @roundDivEven_isRounded (seconds.num.toNat * 1_000_000_000) seconds.den
    seconds.den_pos
  have positive : (0 : ℚ) < seconds.den := by exact_mod_cast seconds.den_pos
  have isExact : ((seconds.num.toNat * 1_000_000_000 : ℕ) : ℚ) / seconds.den =
      seconds * 1_000_000_000 := by
    have whole : ((seconds.num.toNat : ℤ) : ℚ) = seconds.num := by
      rw [Int.toNat_of_nonneg (Rat.num_nonneg.mpr least)]
    have isSeconds : (seconds.num.toNat : ℚ) = seconds * seconds.den := by
      rw [Rat.mul_den_eq_num]
      exact_mod_cast whole
    push_cast
    rw [isSeconds]
    field_simp
  rw [isExact] at rounded
  generalize isNearest : roundDivEven _ _ = nearest at rounded
  have near := abs_le.mp rounded.near
  have bounded : nearest < UInt64.size * 1_000_000_000 := by
    have cast : (nearest : ℚ) < UInt64.size * 1_000_000_000 := by linarith
    exact_mod_cast cast
  refine ⟨⟨nearest, bounded⟩, ?_, ?_⟩
  · simp only [exactSeconds, if_neg (not_lt.mpr least), isNearest, Duration.ofNanoseconds?,
      dif_pos bounded]
  · rw [abs_le]
    dsimp only [exactSeconds]
    constructor
    · linarith
    · linarith

/-- A whole number of nanoseconds is exact. -/
theorem exactSeconds_toDuration?_ofDuration (span : Duration)
    (most : exactSeconds.ofDuration span < UInt64.size - 1) :
    exactSeconds.toDuration? (exactSeconds.ofDuration span) = some span := by
  have least : 0 ≤ exactSeconds.ofDuration span := by
    dsimp only [exactSeconds]
    positivity
  rcases exactSeconds_toDuration? least most with ⟨nearest, isNearest, near⟩
  have same : nearest = span := by
    rw [abs_le] at near
    dsimp only [exactSeconds] at near
    apply Duration.ext_nanoseconds
    have below : (nearest.nanoseconds : ℚ) < span.nanoseconds + 1 := by linarith
    have above : (span.nanoseconds : ℚ) < nearest.nanoseconds + 1 := by linarith
    norm_cast at below above
    omega
  rw [isNearest, same]

/-- A power is the factor of the lowest bit of its exponent times a power of the square. -/
theorem exactSeconds_mul_pow (product base : ℚ) (exponent : Nat) :
    (if exponent % 2 = 1 then exactSeconds.mul product base else product) *
      (base * base) ^ (exponent / 2) = product * base ^ exponent := by
  have lowest : (if exponent % 2 = 1 then exactSeconds.mul product base else product) =
      product * base ^ (exponent % 2) := by
    rcases Nat.mod_two_eq_zero_or_one exponent with even | odd
    · rw [even, if_neg (by decide), pow_zero, mul_one]
    · rw [odd, if_pos rfl, pow_one]
      rfl
  rw [lowest, ← pow_two, ← pow_mul, mul_assoc, ← pow_add, Nat.mod_add_div]

theorem exactSeconds_mulPower (product base : ℚ) (exponent : Nat) :
    exactSeconds.mulPower product base exponent = product * base ^ exponent := by
  fun_induction exactSeconds.mulPower product base exponent with
  | case1 product base exponent factor last =>
      have whole := exactSeconds_mul_pow product base exponent
      rw [last, pow_zero, mul_one] at whole
      exact whole
  | case2 product base exponent factor more ih =>
      rw [ih]
      exact exactSeconds_mul_pow product base exponent

/-! ### Doubling -/

/-- The shipped backoff with a longest delay: half a second at first, twice as long after every
failure. -/
def BackoffPolicy.doubling (longest : Nat) (bounded : longest < UInt64.size) : BackoffPolicy ℚ where
  initialDelay := standard.initialDelay
  maxDelay := .ofSeconds longest bounded
  multiplier := 2

/-- The seconds to wait after a number of failures, but for the random factor: half a second,
doubled with every failure but the first one and at most 63 times, and never more than the longest
delay. -/
def doubled (longest failures : Nat) : ℚ := min (1 / 2 * 2 ^ Nat.min (failures - 1) 63) longest

section Doubling

variable {longest failures : Nat} {factor : ℚ}

theorem doubled_mono {more : Nat} (le : failures ≤ more) :
    doubled longest failures ≤ doubled longest more := by
  have exponents : Nat.min (failures - 1) 63 ≤ Nat.min (more - 1) 63 := by
    show min _ _ ≤ min _ _
    omega
  have powers : (2 : ℚ) ^ Nat.min (failures - 1) 63 ≤ 2 ^ Nat.min (more - 1) 63 :=
    pow_le_pow_right₀ (by norm_num) exponents
  refine min_le_min ?_ le_rfl
  linarith

theorem doubled_pos_le : 0 ≤ doubled longest failures ∧ doubled longest failures ≤ longest := by
  refine ⟨le_min (by positivity) (by positivity), min_le_right _ _⟩

/-- Doubling stops so early that no random factor makes the delay too long. -/
theorem doubled_le : doubled longest failures ≤ 2 ^ 62 := by
  have powers : (2 : ℚ) ^ Nat.min (failures - 1) 63 ≤ 2 ^ 63 :=
    pow_le_pow_right₀ (by norm_num) (Nat.min_le_right _ _)
  refine (min_le_left _ _).trans ?_
  linarith

/-- The counts that are kept are large enough for the delays to depend on nothing else. -/
theorem doubled_count : doubled longest (Nat.min failures maxFailures) = doubled longest failures := by
  have exponents : Nat.min (Nat.min failures maxFailures - 1) 63 = Nat.min (failures - 1) 63 := by
    have large : maxFailures = 4294967295 := rfl
    show min (min _ _ - 1) _ = min _ _
    omega
  rw [doubled, doubled, exponents]

theorem ofDuration_ofSeconds (seconds : Nat) (bounded : seconds < UInt64.size) :
    exactSeconds.ofDuration (.ofSeconds seconds bounded) = seconds := by
  dsimp only [exactSeconds, Duration.ofSeconds]
  push_cast
  ring

theorem delaySeconds_doubling (bounded : longest < UInt64.size) :
    (BackoffPolicy.doubling longest bounded).delaySeconds exactSeconds failures =
      doubled longest failures := by
  have initial : exactSeconds.ofDuration (BackoffPolicy.doubling longest bounded).initialDelay =
      1 / 2 := by
    norm_num [exactSeconds, BackoffPolicy.doubling, BackoffPolicy.standard,
      Duration.ofMilliseconds]
  unfold BackoffPolicy.delaySeconds SecondsArithmetic.power
  rw [initial, exactSeconds_mulPower]
  change min (1 / 2 * (1 * 2 ^ Nat.min (failures - 1) 63))
    (exactSeconds.ofDuration (.ofSeconds longest bounded)) = _
  rw [one_mul, ofDuration_ofSeconds]
  rfl

/-- The delay before any random factor is a whole number of nanoseconds. -/
theorem exists_ofDuration_doubled (bounded : longest < UInt64.size) :
    ∃ span, exactSeconds.ofDuration span = doubled longest failures := by
  have inRange : min (500_000_000 * 2 ^ Nat.min (failures - 1) 63) (longest * 1_000_000_000) <
      UInt64.size * 1_000_000_000 := by
    omega
  refine ⟨⟨_, inRange⟩, ?_⟩
  dsimp only [exactSeconds, doubled]
  push_cast
  rw [← min_div_div_right (by norm_num)]
  congr 1
  · ring
  · ring

theorem delay?_doubling (bounded : longest < UInt64.size) :
    ∃ span, (BackoffPolicy.doubling longest bounded).delay? exactSeconds failures = some span ∧
      exactSeconds.ofDuration span = doubled longest failures := by
  rcases @exists_ofDuration_doubled longest failures bounded with ⟨span, isDoubled⟩
  refine ⟨span, ?_, isDoubled⟩
  unfold BackoffPolicy.delay?
  rw [delaySeconds_doubling, ← isDoubled]
  apply exactSeconds_toDuration?_ofDuration
  rw [isDoubled]
  refine doubled_le.trans_lt ?_
  norm_num [UInt64.size]

theorem ofDuration_min (left right : Duration) :
    exactSeconds.ofDuration (left.min right) =
      min (exactSeconds.ofDuration left) (exactSeconds.ofDuration right) := by
  dsimp only [exactSeconds]
  rw [min_div_div_right (by norm_num)]
  unfold Duration.min
  split
  · rename_i le
    rw [min_eq_left (by exact_mod_cast le)]
  · rename_i less
    rw [min_eq_right (by exact_mod_cast (not_le.mp less).le)]

/-- After every number of failures and with every random factor there is a delay. To the nearest
nanosecond, it is the doubled one times the factor, or the longest one where that is shorter. -/
theorem requeueDelay?_doubling (bounded : longest < UInt64.size) (least : 1 / 2 ≤ factor)
    (most : factor < 3 / 2) :
    ∃ span, (BackoffPolicy.doubling longest bounded).requeueDelay? exactSeconds factor failures =
        some span ∧
      |exactSeconds.ofDuration span - min (doubled longest failures * factor) longest| ≤
        1 / 2_000_000_000 := by
  rcases @delay?_doubling longest failures bounded with ⟨base, isDelay, isDoubled⟩
  have nonnegative := (@doubled_pos_le longest failures).1
  have small := @doubled_le longest failures
  have inRange : doubled longest failures * factor < UInt64.size - 1 := by
    norm_num [UInt64.size]
    nlinarith
  rcases exactSeconds_toDuration? (mul_nonneg nonnegative (by linarith)) inRange with
    ⟨jittered, isJittered, near⟩
  refine ⟨jittered.min (.ofSeconds longest bounded), ?_, ?_⟩
  · unfold BackoffPolicy.requeueDelay? BackoffPolicy.jittered?
    rw [isDelay, Option.bind_some, isDoubled]
    exact congrArg (Option.map _) isJittered
  · rw [ofDuration_min, ofDuration_ofSeconds]
    refine (abs_min_sub_min_le_max _ _ _ _).trans ?_
    rw [sub_self, abs_zero]
    exact max_le near (by norm_num)

/-- The delay lies between half of the doubled one and one and a half times as much, and is never
longer than the longest one. -/
theorem doubled_mul_bounds (least : 1 / 2 ≤ factor) (most : factor < 3 / 2) :
    1 / 2 * doubled longest failures ≤ min (doubled longest failures * factor) longest ∧
      min (doubled longest failures * factor) longest ≤
        min (3 / 2 * doubled longest failures) longest := by
  rcases @doubled_pos_le longest failures with ⟨nonnegative, short⟩
  constructor
  · refine le_min ?_ (by linarith)
    nlinarith
  · refine min_le_min ?_ le_rfl
    nlinarith

end Doubling

end ClusterOperator
