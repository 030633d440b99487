import ClusterOperator.Frontend.Call
import ClusterOperator.Json.Pointer
import ClusterOperator.Json.Time
import ClusterOperator.Proofs.Duration.Written
import ClusterOperator.Proofs.Json.Record

/-!
# Durations that are written again

The text of a duration in an object says its whole milliseconds: the error of reading it back is less
than half a nanosecond up to 97 days, and no binary64 number but the one that was read is near enough
up to a billion years. The text of a duration in a request says its whole seconds. What is finer is
lost.
-/

namespace ClusterOperator.Duration

open Binary64 Text

variable {text : String} {span : Duration} {total : Float} {sum number exact : ℚ}

/-! ### Reading -/

theorem Terms.isBlank {first last : Float} {written : List Char} (terms : Terms first written last) :
    ∀ c ∈ written, Text.isBlank c = false := by
  induction terms with
  | nil => simp
  | term numeral isUnit terms ih =>
      intro c there
      simp only [List.mem_append] at there
      rcases there with there | there | there
      · have part := numeral.isNumeral c there
        simp only [isNumeral, Bool.or_eq_true, beq_iff_eq] at part
        rcases part with digit | rfl
        · exact isBlank_of_isDigit digit
        · rfl
      · cases isUnit <;> simp only [List.mem_cons, List.not_mem_nil, or_false] at there
        · subst there
          rfl
        · subst there
          rfl
        · subst there
          rfl
        · rcases there with rfl | rfl <;> rfl
      · exact ih c there

theorem trim_eq_self {written : List Char} (visible : ∀ c ∈ written, Text.isBlank c = false) :
    trim written = written := by
  have same {run : List Char} (visible : ∀ c ∈ run, Text.isBlank c = false) :
      run.dropWhile Text.isBlank = run := by
    cases run with
    | nil => rfl
    | cons c others =>
        exact List.dropWhile_cons_of_neg (by simp [visible c (List.mem_cons_self ..)])
  rw [trim, trimStart, same visible, same fun c there => visible c (List.mem_reverse.mp there),
    List.reverse_reverse]

theorem read?_of_terms (terms : Terms 0 text.toList total) (written : text.toList ≠ [])
    (isSpan : ofSeconds? total = some span) : read? text = some span := by
  have trimmed := trim_eq_self terms.isBlank
  exact read?_eq_some_iff.mpr (.inr ⟨by rwa [trimmed], total, by rwa [trimmed], isSpan⟩)

theorem toText_ne_nil (span : Duration) : span.toText.toList ≠ [] := by
  rw [toText_eq]
  split <;> simp

/-- What is read is rounded from a binary64 number of seconds. -/
theorem exists_isRounded_of_read? (isRead : read? text = some span) : ∃ number,
    Representable number ∧ IsRounded (number * 1_000_000_000) span.nanoseconds := by
  rcases read?_eq_some_iff.mp isRead with ⟨_, rfl⟩ | ⟨_, total, _, isSpan⟩
  · refine ⟨(0 : ℕ), representable_natCast (by norm_num), ?_⟩
    rw [Nat.cast_zero, zero_mul]
    exact_mod_cast IsRounded.of_whole 0
  · rcases exists_hasValue_of_ofSeconds? isSpan with ⟨number, hasValue⟩
    exact ⟨number, hasValue.representable, isRounded_of_ofSeconds? isSpan hasValue⟩

/-! ### Reading what was written -/

theorem seconds_eq_milliseconds (span : Duration) : span.seconds = span.milliseconds / 1000 := by
  unfold seconds milliseconds
  omega

/-- Every text of a duration that is not too long is read as a duration. -/
theorem exists_read?_toText (small : span.seconds < 2 ^ 55) :
    ∃ back, read? span.toText = some back := by
  rcases exists_terms_toText small with ⟨total, exact, number, terms, hasValue, nearest, _, near⟩
  have few : (span.milliseconds : ℚ) ≤ 2 ^ 55 * 1000 := by
    have few : span.milliseconds ≤ 2 ^ 55 * 1000 := by
      rw [seconds_eq_milliseconds] at small
      omega
    exact_mod_cast few
  have most : number ≤ ((1 * 2 ^ 56 : ℕ) : ℚ) := by
    refine nearest.le_of_le (representable_mul_two_pow (by norm_num) 56) ?_
    have upper := (abs_le.mp near).2
    norm_num at upper ⊢
    linarith
  rcases ofSeconds?_of_hasValue hasValue with ⟨nanoseconds, isSpan, rounded⟩
  have bounded : nanoseconds < UInt64.size * 1_000_000_000 := by
    have upper := (abs_le.mp rounded.near).2
    norm_num at most upper
    have less : (nanoseconds : ℚ) < (18446744073709551616 * 1_000_000_000 : ℕ) := by
      push_cast
      linarith
    exact Nat.cast_lt.mp less
  rw [ofNanoseconds?, dif_pos bounded] at isSpan
  exact ⟨_, read?_of_terms terms (toText_ne_nil span) isSpan⟩

/-- A short duration is read back without what is finer than a millisecond. -/
theorem read?_toText_of_short {back : Duration} (short : span.milliseconds ≤ 2 ^ 23 * 1000)
    (cut : back.nanoseconds = span.milliseconds * 1_000_000) : read? span.toText = some back := by
  have small : span.seconds < 2 ^ 55 := by
    rw [seconds_eq_milliseconds]
    omega
  rcases exists_terms_toText small with
    ⟨total, exact, number, terms, hasValue, nearest, nonnegative, near⟩
  refine read?_of_terms terms (toText_ne_nil span) (ofSeconds?_eq_some hasValue (.of_near ?_))
  have few : (span.milliseconds : ℚ) ≤ 2 ^ 23 * 1000 := by exact_mod_cast short
  have near := abs_le.mp near
  norm_num at near
  -- just beyond the power of two, the number is that power
  have error : |number - exact| ≤ 2 ^ (-30 : ℤ) / 2 := by
    rcases le_or_gt exact (2 ^ (-30 + 53 : ℤ)) with below | above
    · exact nearest.error_le (-30) nonnegative below (by norm_num)
    · have power : Representable ((1 * 2 ^ 23 : ℕ) : ℚ) :=
        representable_mul_two_pow (by norm_num) 23
      refine (nearest.least _ power).trans ?_
      rw [abs_le]
      norm_num at above ⊢
      constructor
      · linarith
      · linarith
  have error := abs_le.mp error
  norm_num at error
  rw [cut, abs_lt]
  push_cast
  constructor
  · linarith
  · linarith

/-- A long duration is read back if it was read and is of whole milliseconds, because there is no
other binary64 number so near. -/
theorem read?_toText_of_long (isRead : read? text = some span) (small : span.seconds < 2 ^ 55)
    (long : 2 ^ 23 * 1000 < span.milliseconds) (whole : 1_000_000 ∣ span.nanoseconds) :
    read? span.toText = some span := by
  rcases exists_isRounded_of_read? isRead with ⟨given, representable, rounded⟩
  rcases exists_terms_toText small with ⟨total, exact, number, terms, hasValue, nearest, _, near⟩
  refine read?_of_terms terms (toText_ne_nil span) (ofSeconds?_eq_some hasValue ?_)
  suffices same : number = given by rwa [same]
  have all : span.nanoseconds = span.milliseconds * 1_000_000 := by
    unfold milliseconds
    omega
  have close := abs_le.mp rounded.near
  rw [all] at close
  push_cast at close
  have near := abs_le.mp near
  norm_num at near
  have many : (2 ^ 23 * 1000 + 1 : ℚ) ≤ span.milliseconds := by exact_mod_cast long
  have power : Representable ((1 * 2 ^ 23 : ℕ) : ℚ) := representable_mul_two_pow (by norm_num) 23
  refine nearest.eq_of_near (-29) representable ?_ ?_ ?_
  · refine le_trans ?_ (nearest.ge_of_ge power ?_)
    · norm_num
    · norm_num
      linarith
  · norm_num
    linarith
  · rw [abs_lt]
    norm_num
    constructor
    · linarith
    · linarith

/-! ### Texts of requests -/

/-- The text says a number of seconds: a decimal number with the unit. -/
def SaysSeconds (text : String) (seconds : ℚ) : Prop :=
  ∃ number digits places, Numeral number digits places ∧ text.toList = number ++ ['s'] ∧
    seconds = decimalValue digits / 10 ^ places

theorem Numeral.eq_of_isDigit {number digits : List Char} {places : ℕ}
    (numeral : Numeral number digits places) (isDigit : ∀ c ∈ number, c.isDigit) :
    digits = number ∧ places = 0 := by
  cases numeral with
  | whole => exact ⟨rfl, rfl⟩
  | decimal => exact absurd (isDigit '.' (by simp)) (by decide)

theorem saysSeconds_secondsText_iff {seconds : ℚ} :
    SaysSeconds span.secondsText seconds ↔ seconds = span.seconds := by
  have spells := spells_toString span.seconds
  have cut : span.secondsText.toList = (toString span.seconds).toList ++ ['s'] :=
    String.toList_append
  constructor
  · rintro ⟨number, digits, places, numeral, isText, rfl⟩
    have same := List.append_cancel_right (cut.symm.trans isText)
    rw [← same] at numeral
    rcases numeral.eq_of_isDigit spells.isDigit with ⟨rfl, rfl⟩
    rw [spells.value_eq, pow_zero, div_one]
  · rintro rfl
    refine ⟨_, _, _, .whole spells.isDigit spells.isSome, cut, ?_⟩
    rw [spells.value_eq, pow_zero, div_one]

open Json

theorem pointer?_registerBody (request : NamespaceRequest) :
    request.registerBody.pointer? "/workflowExecutionRetentionPeriod" =
      some (.string request.retention.secondsText) := by
  have step (members : List (String × Json)) :
      (object members).pointer? "/workflowExecutionRetentionPeriod" =
        lookup "workflowExecutionRetentionPeriod" members :=
    Option.bind_fun_some _
  have others : lookup "workflowExecutionRetentionPeriod" (textsField "data" request.data) =
      none := by
    unfold textsField
    split <;> rfl
  rw [NamespaceRequest.registerBody, step]
  simp [lookup_append, lookup_optionalField, lookup_cons, NamespaceRequest.fields, others, lookup]

/-! ### Texts of a duration that was read -/

/-- A duration that was read is written into objects in such a way that the same is read again, if
it is of whole milliseconds and not too long; but nothing finer than a millisecond is written. The
requests for a namespace say its whole seconds, so the same only if there are no others. -/
theorem texts_of_read (isRead : read? text = some span) :
    (span.seconds < 2 ^ 55 → ∃ back, ofJson? span.toJson = some back ∧
      (1_000_000 ∣ span.nanoseconds → back = span) ∧
      (span.seconds < 2 ^ 23 →
        back.nanoseconds = span.nanoseconds / 1_000_000 * 1_000_000)) ∧
    ∀ (cluster : Cluster) (ns : Namespace), ns.spec.retention = some span →
      ∃ written seconds,
        (NamespaceRequest.of cluster ns).registerBody.pointer?
          "/workflowExecutionRetentionPeriod" = some (.string written) ∧
        (NamespaceRequest.of cluster ns).updateBody.pointer?
          "/config/workflowExecutionRetentionTtl" = some (.string written) ∧
        (∀ said, SaysSeconds written said ↔ said = seconds) ∧
        (seconds = span.nanoseconds / 1_000_000_000 ↔ 1_000_000_000 ∣ span.nanoseconds) := by
  constructor
  · intro small
    change ∃ back, read? span.toText = some back ∧ _
    rcases le_or_gt span.milliseconds (2 ^ 23 * 1000) with short | long
    · have bounded : span.milliseconds * 1_000_000 < UInt64.size * 1_000_000_000 :=
        (Nat.div_mul_le_self _ _).trans_lt span.bounded
      refine ⟨⟨_, bounded⟩, read?_toText_of_short short rfl, fun whole => ?_, fun _ => rfl⟩
      exact ext_nanoseconds (Nat.div_mul_cancel whole)
    · rcases exists_read?_toText small with ⟨back, isBack⟩
      refine ⟨back, isBack, fun whole => ?_, fun short => ?_⟩
      · rw [read?_toText_of_long isRead small long whole] at isBack
        exact (Option.some.inj isBack).symm
      · rw [seconds_eq_milliseconds] at short
        omega
  · intro cluster ns isSet
    have retention : (NamespaceRequest.of cluster ns).retention = span := by
      change ns.spec.retention.getD Namespace.defaultRetention = span
      rw [isSet, Option.getD_some]
    refine ⟨span.secondsText, span.seconds, ?_, ?_, fun said => saysSeconds_secondsText_iff, ?_⟩
    · rw [pointer?_registerBody, retention]
    · rw [← retention]
      rfl
    · rw [eq_div_iff (by norm_num)]
      norm_cast
      exact ⟨fun whole => Dvd.intro_left _ whole, Nat.div_mul_cancel⟩

theorem texts_of_read_submillisecond : ∃ span back,
    read? "1.5ms" = some span ∧ ofJson? span.toJson = some back ∧ back ≠ span ∧
      back.nanoseconds = 1_000_000 := by
  have isRead : read? "1.5ms" = some ⟨1_500_000, by decide⟩ := by decide +kernel
  rcases (texts_of_read isRead).1 (by decide) with ⟨back, isBack, _, cut⟩
  have cut : back.nanoseconds = 1_000_000 := cut (by decide)
  refine ⟨_, back, isRead, isBack, ?_, cut⟩
  rintro rfl
  cases cut

/-- Beyond the bound, minutes can get lost in rounding. -/
example : read? "36028797018969784s" ≠ none ∧
    (read? "36028797018969784s").bind (read? ·.toText) ≠ read? "36028797018969784s" := by
  decide +kernel

end ClusterOperator.Duration
