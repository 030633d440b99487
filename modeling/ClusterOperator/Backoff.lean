import ClusterOperator.Duration.Basic
import ClusterOperator.SortedMap.Basic

/-!
# Backoff

How long to wait after repeated failures: the delay grows by a factor with every failure up to a
maximum, and a random factor spreads the attempts. Failures are counted for every object by itself.

The delay is computed with numbers of seconds. The computation is written for any kind of numbers
(`SecondsArithmetic`), of which binary64 is the one that runs.
-/

namespace ClusterOperator

/-- What the computation of delays needs of numbers. -/
structure SecondsArithmetic (R : Type) where
  one : R
  mul : R → R → R
  /-- The smaller of two numbers. -/
  min : R → R → R
  ofDuration : Duration → R
  /-- The nearest span, if the number is not negative and in range. -/
  toDuration? : R → Option Duration

/-- The smaller of two binary64 numbers, where what is not a number does not count. -/
def minNumber (left right : Float) : Float :=
  if left.isNaN then right
  else if right.isNaN then left
  else if left ≤ right then left
  else right

/-- Binary64 numbers of seconds. -/
def binary64 : SecondsArithmetic Float where
  one := 1
  mul := (· * ·)
  min := minNumber
  ofDuration := Duration.toSeconds
  toDuration? := Duration.ofSeconds?

/-- The parameters of a backoff. -/
structure BackoffPolicy (R : Type) where
  /-- The number of attempts, where zero means that there is no limit. -/
  maxAttempts : Nat := 0
  initialDelay : Duration := .ofMilliseconds 500
  maxDelay : Duration := .ofSeconds 300
  multiplier : R

namespace SecondsArithmetic

variable {R : Type} (numbers : SecondsArithmetic R)

/-- Multiplies a product by a power, by repeated squaring from the lowest bit of the exponent. -/
def mulPower (product base : R) (exponent : Nat) : R :=
  let product := if exponent % 2 = 1 then numbers.mul product base else product
  if exponent / 2 = 0 then product
  else mulPower product (numbers.mul base base) (exponent / 2)
termination_by exponent
decreasing_by omega

def power (base : R) (exponent : Nat) : R := numbers.mulPower numbers.one base exponent

end SecondsArithmetic

namespace BackoffPolicy

variable {R : Type} (numbers : SecondsArithmetic R) (policy : BackoffPolicy R)

/-- The seconds to wait after a number of failures, before any random factor. The factor has been
applied once less than there were failures, and at most 63 times. -/
def delaySeconds (failures : Nat) : R :=
  numbers.min
    (numbers.mul (numbers.ofDuration policy.initialDelay)
      (numbers.power policy.multiplier (Nat.min (failures - 1) 63)))
    (numbers.ofDuration policy.maxDelay)

/-- The delay after a number of failures. There is none for a negative number of seconds. -/
def delay? (failures : Nat) : Option Duration :=
  numbers.toDuration? (policy.delaySeconds numbers failures)

/-- A delay times a random factor. -/
def jittered? (factor : R) (delay : Duration) : Option Duration :=
  numbers.toDuration? (numbers.mul (numbers.ofDuration delay) factor)

/-- The delay before an object is tried again, never more than the maximum. -/
def requeueDelay? (factor : R) (failures : Nat) : Option Duration :=
  (policy.delay? numbers failures).bind fun delay =>
    (jittered? numbers factor delay).map (·.min policy.maxDelay)

end BackoffPolicy

/-- The policy of binary64 numbers with all parameters at their defaults: half a second at first,
twice as long after every failure. -/
def BackoffPolicy.standard : BackoffPolicy Float := { multiplier := 2 }

/-- The largest count of failures. -/
def maxFailures : Nat := UInt32.size - 1

/-- The number of failures of every object since its last success. -/
abbrev FailureCounts := StringMap Nat

namespace FailureCounts

/-- The failures of an object. -/
def count (failures : FailureCounts) (key : String) : Nat := (failures.get? key).getD 0

/-- Counts one more failure of an object. -/
def record (failures : FailureCounts) (key : String) : FailureCounts :=
  failures.insert key (Nat.min (failures.count key + 1) maxFailures)

/-- Forgets the failures of an object. -/
def reset (failures : FailureCounts) (key : String) : FailureCounts := failures.erase key

end FailureCounts

end ClusterOperator
