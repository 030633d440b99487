import ClusterOperator.Duration.Basic

/-!
# Durations as text

Two written forms: the one of object specs, in hours, minutes and seconds with at most three decimal
places (`toText`), and the one of messages and logs, in the largest unit that the span fills
(`describe`).
-/

namespace ClusterOperator

/-- The digits of a number, with zeros in front up to a width. -/
def padded (width n : Nat) : String :=
  let digits := toString n
  String.ofList (List.replicate (width - digits.length) '0') ++ digits

namespace Duration

/-- The form of object specs. What is finer than a millisecond is not written. -/
def toText (span : Duration) : String :=
  let total := span.seconds
  let millis := span.subsecondNanos / 1_000_000
  if total = 0 ∧ millis = 0 then "0s"
  else if total = 0 then toString millis ++ "ms"
  else
    let hours := total / 3600
    let minutes := total % 3600 / 60
    let front :=
      if 0 < hours then toString hours ++ "h" ++ toString minutes ++ "m"
      else if 0 < minutes then toString minutes ++ "m"
      else ""
    let fraction := if 0 < millis then "." ++ padded 3 millis else ""
    front ++ toString (total % 60) ++ fraction ++ "s"

/-- A decimal fraction of `width` digits without the zeros at its end, with its point. -/
def fractionText (width fraction : Nat) : String :=
  if fraction = 0 then ""
  else
    let digits := (padded width fraction).toList.reverse.dropWhile (· == '0')
    "." ++ String.ofList digits.reverse

/-- The form of messages: the largest of seconds, milliseconds, microseconds and nanoseconds that
the span fills, with all of its fraction. -/
def describe (span : Duration) : String :=
  let nanos := span.nanoseconds
  let inUnits (size places : Nat) (unit : String) : String :=
    toString (nanos / size) ++ fractionText places (nanos % size) ++ unit
  if 1_000_000_000 ≤ nanos then inUnits 1_000_000_000 9 "s"
  else if 1_000_000 ≤ nanos then inUnits 1_000_000 6 "ms"
  else if 1000 ≤ nanos then inUnits 1000 3 "µs"
  else toString nanos ++ "ns"

end Duration

end ClusterOperator
