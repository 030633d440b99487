import Mathlib.Data.List.Range
import ClusterOperator.Retry

/-!
# Attempts

An operation is called until it succeeds or the allowed calls are used up, and never again after
that. Between two calls there is one pause, and there is none after the last call.

The calls are counted in a word that stops at its largest number. A limit is a word too, so it is
reached before the count stops. Without a limit, the count only matters for the delays.
-/

namespace ClusterOperator

variable {R ε α : Type} {numbers : SecondsArithmetic R} {policy : BackoffPolicy R} {factor : ℕ → R}
  {pause : ℕ → Duration} {limit calls : ℕ} {failures : List ε} {problem : ε} {value : α}
  {rest : List (Except ε α)}

/-! ### Counting -/

/-- After a number of calls, there may be another one. A limit of zero means that there is none. -/
def Allows (limit calls : ℕ) : Prop := limit = 0 ∨ calls < limit

theorem BackoffPolicy.isExhausted_iff (limited : policy.maxAttempts < UInt32.size) :
    policy.isExhausted calls ↔ ¬ Allows policy.maxAttempts calls := by
  -- what is compared is a count that can stop, but not before it has reached the limit
  have counted : policy.maxAttempts ≤ countedAttempt calls ↔ policy.maxAttempts ≤ calls := by
    have reached : policy.maxAttempts ≤ maxFailures := Nat.le_pred_of_lt limited
    show _ ≤ min _ _ ↔ _
    omega
  rw [isExhausted, Bool.and_eq_true, decide_eq_true_iff, decide_eq_true_iff, counted, Allows]
  omega

/-! ### Calls that fail -/

/-- A number of failed calls, each with the pause after it. -/
def failedCalls (pause : ℕ → Duration) (calls : ℕ) : List RetryStep :=
  (List.range calls).flatMap fun failed => [.call, .sleep (pause (failed + 1))]

theorem failedCalls_succ (pause : ℕ → Duration) (calls : ℕ) :
    failedCalls pause (calls + 1) =
      failedCalls pause calls ++ [.call, .sleep (pause (calls + 1))] := by
  rw [failedCalls, List.range_succ, List.flatMap_append, List.flatMap_singleton, ← failedCalls]

theorem count_failedCalls (pause : ℕ → Duration) (calls : ℕ) :
    (failedCalls pause calls).count .call = calls := by
  induction calls with
  | zero => rfl
  | succ calls ih =>
      rw [failedCalls_succ, List.count_append, ih]
      rfl

namespace RetryRun

theorem after_after (run : RetryRun ε α) (earlier later : List RetryStep) :
    (run.after later).after earlier = run.after (earlier ++ later) := by
  unfold after
  rw [List.append_assoc]

theorem calls_after (run : RetryRun ε α) (pause : ℕ → Duration) (calls : ℕ) :
    (run.after (failedCalls pause calls)).calls = calls + run.calls := by
  rw [RetryRun.calls, after, List.count_append, count_failedCalls, ← RetryRun.calls]

end RetryRun

theorem retryAfter_error (limited : policy.maxAttempts < UInt32.size)
    (allowed : Allows policy.maxAttempts (calls + 1)) {span : Duration}
    (isPause : policy.pause? numbers factor (calls + 1) = some span) :
    retryAfter numbers policy factor calls (.error problem :: rest) =
      (retryAfter numbers policy factor (calls + 1) rest).after [.call, .sleep span] := by
  have goesOn : ¬ policy.isExhausted (calls + 1) :=
    fun exhausted => (BackoffPolicy.isExhausted_iff limited).mp exhausted allowed
  rw [retryAfter, if_neg goesOn, isPause]

theorem retryAfter_last (limited : policy.maxAttempts < UInt32.size)
    (exhausted : ¬ Allows policy.maxAttempts (calls + 1)) :
    retryAfter numbers policy factor calls (.error problem :: rest) =
      { steps := [.call], outcome := .finished (.error problem) } := by
  rw [retryAfter, if_pos ((BackoffPolicy.isExhausted_iff limited).mpr exhausted)]

/-- What becomes of the answers of an operation that may be called `limit` times, where zero means
that there is no limit: when the run ends and with which result, and what was done until then. -/
inductive RetryRun.Follows (limit : ℕ) (pause : ℕ → Duration) (run : RetryRun ε α) :
    List (Except ε α) → Prop
  /-- The first success is the result if its call is allowed. What the operation would answer later
  does not matter. -/
  | succeeded {failures : List ε} {value : α} {later : List (Except ε α)}
      (allowed : Allows limit failures.length)
      (outcome : run.outcome = .finished (.ok value))
      (calls : run.calls = failures.length + 1)
      (steps : run.steps = failedCalls pause failures.length ++ [.call]) :
      run.Follows limit pause (failures.map Except.error ++ .ok value :: later)
  /-- Where all allowed calls fail, the error of the last one is the result. -/
  | gaveUp {failures : List ε} {problem : ε} {later : List (Except ε α)}
      (isLast : failures.length + 1 = limit)
      (outcome : run.outcome = .finished (.error problem))
      (calls : run.calls = limit)
      (steps : run.steps = failedCalls pause failures.length ++ [.call]) :
      run.Follows limit pause (failures.map Except.error ++ .error problem :: later)
  /-- As long as all calls have failed and more are allowed, another one is due. -/
  | underWay {failures : List ε} (allowed : Allows limit failures.length)
      (outcome : run.outcome = .pending)
      (calls : run.calls = failures.length)
      (steps : run.steps = failedCalls pause failures.length) :
      run.Follows limit pause (failures.map Except.error)

/-! ### Whole runs -/

/-- Answers begin with failures, fewer than the limit. Then they end, or a success follows, or the
failure with which the limit is reached. -/
theorem exists_failures (limit : ℕ) (answers : List (Except ε α)) :
    ∃ failures : List ε, Allows limit failures.length ∧
      (answers = failures.map Except.error ∨
        (∃ value later, answers = failures.map Except.error ++ .ok value :: later) ∨
        ∃ problem later, failures.length + 1 = limit ∧
          answers = failures.map Except.error ++ .error problem :: later) := by
  induction answers generalizing limit with
  | nil => exact ⟨[], Nat.eq_zero_or_pos limit, .inl rfl⟩
  | cons answer rest ih =>
      rcases answer with problem | value
      · by_cases isLast : 1 = limit
        · exact ⟨[], .inr (by simp [← isLast]), .inr (.inr ⟨problem, rest, isLast, rfl⟩)⟩
        · -- the failures among the rest count one less
          rcases ih (limit - 1) with ⟨failures, allowed, leads⟩
          unfold Allows at allowed
          refine ⟨problem :: failures, by rw [Allows, List.length_cons]; omega, ?_⟩
          rcases leads with rfl | ⟨value, later, rfl⟩ | ⟨last, later, reached, rfl⟩
          · exact .inl rfl
          · exact .inr (.inl ⟨value, later, rfl⟩)
          · exact .inr (.inr ⟨last, later, by rw [List.length_cons]; omega, rfl⟩)
      · exact ⟨[], Nat.eq_zero_or_pos limit, .inr (.inl ⟨value, rest, rfl⟩)⟩

section Runs

variable (limited : policy.maxAttempts < UInt32.size)
  (paused : ∀ failed, Allows policy.maxAttempts (failed + 1) →
    policy.pause? numbers factor (failed + 1) = some (pause (failed + 1)))
include limited paused

/-- After calls that fail, a run goes on as long as more calls are allowed. -/
theorem retry_append_failures (allowed : Allows policy.maxAttempts failures.length) :
    retry numbers policy factor (failures.map Except.error ++ rest) =
      (retryAfter numbers policy factor failures.length rest).after
        (failedCalls pause failures.length) := by
  induction failures using List.reverseRecOn generalizing rest with
  | nil => rfl
  | append_singleton failures problem ih =>
      rw [List.length_append, List.length_singleton] at allowed ⊢
      have before : Allows policy.maxAttempts failures.length := by
        unfold Allows at allowed ⊢
        omega
      rw [List.map_append, List.append_assoc, ih before, List.map_singleton,
        List.singleton_append, retryAfter_error limited allowed (paused _ allowed),
        RetryRun.after_after, failedCalls_succ]

/-- With every policy whose pauses are durations, and whatever the operation answers, a run ends with
the first success or with the last call that is allowed, after one pause for every other call. -/
theorem retry_follows (answers : List (Except ε α)) :
    (retry numbers policy factor answers).Follows policy.maxAttempts pause answers := by
  rcases exists_failures policy.maxAttempts answers with ⟨failures, allowed, leads⟩
  rcases leads with rfl | ⟨value, later, rfl⟩ | ⟨problem, later, isLast, rfl⟩
  · have whole := List.append_nil (failures.map Except.error : List (Except ε α))
    rw [← whole, retry_append_failures limited paused allowed, whole]
    exact .underWay allowed rfl (RetryRun.calls_after _ _ _) (List.append_nil _)
  · rw [retry_append_failures limited paused allowed]
    exact .succeeded allowed rfl (RetryRun.calls_after _ _ _) rfl
  · have exhausted : ¬ Allows policy.maxAttempts (failures.length + 1) := by
      unfold Allows
      omega
    rw [retry_append_failures limited paused allowed, retryAfter_last limited exhausted]
    exact .gaveUp isLast rfl ((RetryRun.calls_after _ _ _).trans isLast) rfl

end Runs

/-! ### The first reading of all namespaces -/

namespace BackoffPolicy

/-- The policy with which all namespaces are read at the start. -/
def scanning : BackoffPolicy Float := { standard with maxAttempts := 10 }

/-- The pauses of the policy without anything random. -/
def scanningPause (calls : ℕ) : Duration :=
  (scanning.pause? binary64 (fun _ => 1) calls).getD .zero

theorem pause?_scanning (failed : ℕ) (allowed : Allows 10 (failed + 1)) :
    scanning.pause? binary64 (fun _ => 1) (failed + 1) = some (scanningPause (failed + 1)) := by
  have each : ∀ call : Fin 9, scanning.pause? binary64 (fun _ => 1) (call + 1) =
      some (scanningPause (call + 1)) := by
    decide +kernel
  unfold Allows at allowed
  exact each ⟨failed, by omega⟩

end BackoffPolicy

/-- Two failures and a success are within the limit. -/
theorem retry_follows_scanning :
    BackoffPolicy.scanning.maxAttempts < UInt32.size ∧
      (∀ failed, Allows BackoffPolicy.scanning.maxAttempts (failed + 1) →
        BackoffPolicy.scanning.pause? binary64 (fun _ => 1) (failed + 1) =
          some (BackoffPolicy.scanningPause (failed + 1))) ∧
      (retry binary64 .scanning (fun _ => 1) [.error "refused", .error "timeout", .ok 3]).Follows
        10 BackoffPolicy.scanningPause [.error "refused", .error "timeout", .ok 3] :=
  have limited : BackoffPolicy.scanning.maxAttempts < UInt32.size := by decide
  ⟨limited, BackoffPolicy.pause?_scanning,
    retry_follows limited BackoffPolicy.pause?_scanning _⟩

/-- What is done until the success. -/
example :
    (retry binary64 .scanning (fun _ => 1)
      [.error "refused", .error "timeout", .ok 3, .ok 4]).steps =
      [.call, .sleep (.ofMilliseconds 500), .call, .sleep (.ofSeconds 1), .call] := by
  decide +kernel

end ClusterOperator
