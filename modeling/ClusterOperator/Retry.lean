import ClusterOperator.Backoff

/-!
# Retrying in place

An operation that fails is tried again after a delay that grows with every attempt, until it
succeeds or the allowed attempts are used up. The operation is given by the answers that it has
given so far, so a run may still be under way when the answers end.
-/

namespace ClusterOperator

/-- How far a run of attempts has come. -/
inductive RetryOutcome (ε α : Type) where
  /-- The last answer is the result. -/
  | finished (result : Except ε α)
  /-- Another attempt is due, whose answer is not known yet. -/
  | pending
  /-- The next delay is negative or too long for a duration. -/
  | delayOutOfRange

/-- What a run of attempts does. -/
inductive RetryStep where
  /-- The operation is called, and answers. -/
  | call
  | sleep (span : Duration)
  deriving DecidableEq

/-- What happened in a run of attempts. -/
structure RetryRun (ε α : Type) where
  /-- What was done, one after the other. -/
  steps : List RetryStep
  outcome : RetryOutcome ε α

namespace RetryRun

variable {ε α : Type}

/-- A run that goes on after some steps. -/
def after (steps : List RetryStep) (run : RetryRun ε α) : RetryRun ε α :=
  { run with steps := steps ++ run.steps }

/-- How often the operation was called. -/
def calls (run : RetryRun ε α) : Nat := run.steps.count .call

end RetryRun

/-- The number of an attempt as it is counted, which stops at the largest count. -/
def countedAttempt (calls : Nat) : Nat := Nat.min calls maxFailures

variable {R ε α : Type} (numbers : SecondsArithmetic R) (policy : BackoffPolicy R)

namespace BackoffPolicy

/-- Whether no attempt is left after a number of calls. -/
def isExhausted (calls : Nat) : Bool :=
  0 < policy.maxAttempts && policy.maxAttempts ≤ countedAttempt calls

/-- How long to sleep after a number of calls, where `factor` gives the random factor of the delay
after each call. -/
def pause? (factor : Nat → R) (calls : Nat) : Option Duration :=
  (policy.delay? numbers (countedAttempt calls)).bind (jittered? numbers (factor calls))

end BackoffPolicy

/-- Goes on with a run in which some calls were made. -/
def retryAfter (factor : Nat → R) (calls : Nat) : List (Except ε α) → RetryRun ε α
  | [] => { steps := [], outcome := .pending }
  | .ok value :: _ => { steps := [.call], outcome := .finished (.ok value) }
  | .error problem :: rest =>
      if policy.isExhausted (calls + 1) then
        { steps := [.call], outcome := .finished (.error problem) }
      else
        match policy.pause? numbers factor (calls + 1) with
        | none => { steps := [.call], outcome := .delayOutOfRange }
        | some pause => (retryAfter factor (calls + 1) rest).after [.call, .sleep pause]

/-- Runs an operation that gives certain answers, one after the other. -/
def retry (factor : Nat → R) (answers : List (Except ε α)) : RetryRun ε α :=
  retryAfter numbers policy factor 0 answers

end ClusterOperator
