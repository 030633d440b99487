/-!
# Shortest decimals

The written form of a binary64 number: of the decimal numbers that are nearer to it than to any
other binary64 number those with the fewest digits, and of these the nearest one. A point is always
written, except beside an exponent, which numbers of more than 16 digits and very small ones have.
-/

namespace ClusterOperator.Text

/-- A number `mantissa * 2 ^ (shift - 1074)`. -/
structure BinaryFraction where
  mantissa : Nat
  shift : Nat
  deriving DecidableEq

/-- The size of a finite binary64 number. -/
def BinaryFraction.ofFloat (value : Float) : BinaryFraction :=
  let bits := value.toBits.toNat
  let fraction := bits % 0x10000000000000
  match bits / 0x10000000000000 % 2048 with
  | 0 => ⟨fraction, 0⟩
  | exponent => ⟨0x10000000000000 + fraction, exponent - 1⟩

namespace BinaryFraction

/-- A number of quarters of the last binary place, in units that it shares with decimal numbers of
an exponent. -/
def quarters (number : BinaryFraction) (exponent : Int) (count : Nat) : Nat :=
  count * Nat.pow 2 number.shift * Nat.pow 10 (-exponent).toNat

/-- A decimal number in the same units. -/
def decimal (exponent : Int) (digits : Nat) : Nat :=
  digits * Nat.pow 10 exponent.toNat * Nat.pow 2 1076

/-- Whether a decimal number is nearer to a number than to the ones beside it. The one below is half
as far away where the last place changes its weight. A number in the middle belongs to the even
mantissa. -/
def isNearest (number : BinaryFraction) (exponent : Int) (digits : Nat) : Bool :=
  let below := if number.mantissa = 0x10000000000000 ∧ 1 ≤ number.shift then 1 else 2
  let low := number.quarters exponent (4 * number.mantissa - below)
  let high := number.quarters exponent (4 * number.mantissa + 2)
  let value := decimal exponent digits
  if number.mantissa % 2 = 0 then low ≤ value && value ≤ high else low < value && value < high

/-- The digits of the nearest decimal number of an exponent, if one is near enough. -/
def digits? (number : BinaryFraction) (exponent : Int) : Option Nat :=
  let value := number.quarters exponent (4 * number.mantissa)
  let lower := value / decimal exponent 1
  let middle := decimal exponent lower + decimal exponent (lower + 1)
  match number.isNearest exponent lower, number.isNearest exponent (lower + 1) with
  | true, true =>
      if 2 * value < middle then some lower
      else if middle < 2 * value then some (lower + 1)
      else some (lower + lower % 2)
  | true, false => some lower
  | false, true => some (lower + 1)
  | false, false => none

/-- The shortest decimal number from an exponent on downwards: its digits and its exponent. -/
def shortestFrom (number : BinaryFraction) : Nat → Int → Nat × Int
  | 0, exponent => (0, exponent)
  | fuel + 1, exponent =>
      match number.digits? exponent with
      | some digits => (digits, exponent)
      | none => shortestFrom number fuel (exponent - 1)

/-- The shortest decimal number: its digits and its exponent. All exponents of binary64 numbers are
between 308 and -324. -/
def shortest (number : BinaryFraction) : Nat × Int := number.shortestFrom 633 308

end BinaryFraction

def zeros (count : Nat) : String := String.ofList (List.replicate count '0')

/-- The written form of a decimal number. -/
def pointText (digits : Nat) (exponent : Int) : String :=
  let written := toString digits
  let point := written.length + exponent
  if 0 ≤ exponent ∧ point ≤ 16 then written ++ zeros exponent.toNat ++ ".0"
  else if 0 < point ∧ point ≤ 16 then
    (written.take point.toNat).toString ++ "." ++ (written.drop point.toNat).toString
  else if -5 < point ∧ point ≤ 0 then "0." ++ zeros (-point).toNat ++ written
  else
    let fraction := (written.drop 1).toString
    (written.take 1).toString ++ (if fraction = "" then "" else "." ++ fraction) ++ "e" ++
      toString (point - 1)

/-- The written form of a finite binary64 number. -/
def floatText (value : Float) : String :=
  let number := BinaryFraction.ofFloat value
  let sign := if value.toBits.toNat < 0x8000000000000000 then "" else "-"
  if number.mantissa = 0 then sign ++ "0.0"
  else
    let (digits, exponent) := number.shortest
    sign ++ pointText digits exponent

end ClusterOperator.Text
