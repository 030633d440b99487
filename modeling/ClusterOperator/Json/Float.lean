import ClusterOperator.Json.Basic

/-!
# JSON numbers in binary64

A decimal number is its significand, rounded to a binary64 number, times or divided by a power of
ten, which is rounded too.
-/

namespace ClusterOperator.Json

/-- The power of ten nearest to `10 ^ exponent`, for exponents up to 308. -/
def powerOfTen (exponent : Nat) : Float := Float.ofScientific 1 false exponent

/-- A number divided by ten, or multiplied by it, as often as an exponent says; none where that is
out of range. Small numbers are divided in steps that a power of ten can be, and are zero before the
fuel runs out. -/
def scale? : Nat → Float → Int → Option Float
  | 0, _, _ => some 0
  | fuel + 1, value, exponent =>
      if 0 ≤ exponent then
        if value == 0 then some value
        else if 308 < exponent then none
        else
          let scaled := value * powerOfTen exponent.toNat
          if scaled.isInf then none else some scaled
      else if -exponent ≤ 308 then some (value / powerOfTen (-exponent).toNat)
      else scale? fuel (value / powerOfTen 308) (exponent + 308)

/-- The binary64 number for `significand * 10 ^ exponent`. -/
def floatOfParts? (significand : Nat) (exponent : Int) : Option Float :=
  scale? 4 (Float.ofNat significand) exponent

/-- The binary64 number for a number. -/
def float? : Json → Option Float
  | integer value => some (Float.ofInt value)
  | decimal mantissa exponent =>
      (floatOfParts? mantissa.natAbs exponent).map fun size =>
        if mantissa < 0 then -size else size
  | _ => none

end ClusterOperator.Json
