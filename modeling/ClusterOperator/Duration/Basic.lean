/-!
# Durations

Spans of time, in whole nanoseconds and as binary fractions of a second.
-/

namespace ClusterOperator

/-! ## Durations

A span of time as a whole number of nanoseconds, at most as long as a 64-bit number of seconds can
say.
-/

/-- A span of time whose whole seconds fit a 64-bit word. -/
structure Duration where
  nanoseconds : Nat
  bounded : nanoseconds < UInt64.size * 1_000_000_000
  deriving DecidableEq

namespace Duration

/-- The empty span. -/
def zero : Duration := ⟨0, by decide⟩

instance : Inhabited Duration := ⟨zero⟩

/-- The span of a number of nanoseconds, if it is in range. -/
def ofNanoseconds? (nanoseconds : Nat) : Option Duration :=
  if bounded : nanoseconds < UInt64.size * 1_000_000_000 then some ⟨nanoseconds, bounded⟩
  else none

/-- The span of a number of milliseconds, if it is in range. -/
def ofMilliseconds? (milliseconds : Nat) : Option Duration :=
  ofNanoseconds? (milliseconds * 1_000_000)

/-- The span of a 64-bit number of seconds. -/
def ofSeconds (seconds : Nat) (bounded : seconds < UInt64.size := by decide) : Duration :=
  ⟨seconds * 1_000_000_000, Nat.mul_lt_mul_of_pos_right bounded (by decide)⟩

/-- The span of a number of hours. -/
def ofHours (hours : Nat) (bounded : hours * 3600 < UInt64.size := by decide) : Duration :=
  ofSeconds (hours * 3600) bounded

/-- The span of a number of milliseconds. -/
def ofMilliseconds (milliseconds : Nat) (bounded : milliseconds < UInt64.size := by decide) :
    Duration :=
  ⟨milliseconds * 1_000_000, by omega⟩

/-- The whole seconds of a span. -/
def seconds (span : Duration) : Nat := span.nanoseconds / 1_000_000_000

/-- The nanoseconds of a span beyond its whole seconds. -/
def subsecondNanos (span : Duration) : Nat := span.nanoseconds % 1_000_000_000

/-- The whole milliseconds of a span. -/
def milliseconds (span : Duration) : Nat := span.nanoseconds / 1_000_000

/-- The shorter of two spans. -/
def min (left right : Duration) : Duration :=
  if left.nanoseconds ≤ right.nanoseconds then left else right

theorem ext_nanoseconds {left right : Duration} (same : left.nanoseconds = right.nanoseconds) :
    left = right := by
  cases left; cases right; cases same; rfl

end Duration

/-! ## Durations as binary fractions of a second

A binary64 number of seconds stands for the nearest whole number of nanoseconds, and a number half
way between two of them for the even one.
-/

/-- The quotient rounded to the nearest whole number, halves to the even one. -/
def roundDivEven (numerator denominator : Nat) : Nat :=
  let quotient := numerator / denominator
  let rest := numerator % denominator
  if 2 * rest < denominator then quotient
  else if denominator < 2 * rest then quotient + 1
  else quotient + quotient % 2

namespace Duration

/-- A span as a binary64 number of seconds: the whole seconds plus the fraction. -/
def toSeconds (span : Duration) : Float :=
  Float.ofNat span.seconds + Float.ofNat span.subsecondNanos / 1e9

/-- The nanoseconds nearest to `mantissa * 2 ^ (exponent - 1075)` seconds. -/
def nearestNanoseconds (mantissa exponent : Nat) : Nat :=
  if 1075 ≤ exponent then mantissa * Nat.pow 2 (exponent - 1075) * 1_000_000_000
  else roundDivEven (mantissa * 1_000_000_000) (Nat.pow 2 (1075 - exponent))

/-- The span of a number of seconds, unless that is negative, not a number or out of range. -/
def ofSeconds? (seconds : Float) : Option Duration :=
  if seconds < 0 then none
  else
    let bits := seconds.toBits.toNat
    let fraction := bits % Nat.pow 2 52
    match bits / Nat.pow 2 52 % 2048 with
    | 2047 => none
    | 0 => ofNanoseconds? (nearestNanoseconds fraction 1)
    | exponent => ofNanoseconds? (nearestNanoseconds (Nat.pow 2 52 + fraction) exponent)

end Duration

end ClusterOperator
