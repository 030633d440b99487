import ClusterOperator.Json.Cursor
import ClusterOperator.Json.Float
import ClusterOperator.Text.Basic
import ClusterOperator.Text.ShortestDecimal

/-!
# Numbers in JSON text

A number without fraction and exponent is an integer if it fits a signed or an unsigned word of 64
bits. All others are decimal numbers with a significand of 64 bits, to which digits beyond those add
nothing but their weight, and have to be in the range of binary64 numbers. Minus zero is no integer.
-/

namespace ClusterOperator.Json

/-- A number as it is written. -/
inductive Number where
  | whole (value : Int)
  /-- The number `significand * 10 ^ exponent`, or its negative. -/
  | decimal (negative : Bool) (significand : Nat) (exponent : Int)
  deriving DecidableEq

namespace Number

/-- The value of a number as a document. -/
def toJson : Number → Json
  | whole value => .integer value
  | decimal negative significand exponent =>
      .decimal (if negative then -(significand : Int) else significand) exponent

/-- What a number is, in words. -/
def describe : Number → String
  | whole value => "integer " ++ FaultReason.marked (toString value)
  | decimal negative significand exponent =>
      let size := (floatOfParts? significand exponent).getD 0
      "floating point " ++ FaultReason.marked (Text.floatText (if negative then -size else size))

end Number

/-- Adds digits to a significand while it fits 64 bits, and counts those that do not fit. -/
def addDigits (significand dropped : Nat) : List Char → Nat × Nat
  | [] => (significand, dropped)
  | c :: rest =>
      let next := significand * 10 + Text.digitValue c
      if dropped = 0 ∧ next < UInt64.size then addDigits next 0 rest
      else addDigits significand (dropped + 1) rest

/-- The greatest exponent that is read. -/
def greatestExponent : Nat := 2147483647

/-- Reads the digits of an exponent after its first one. Beyond the greatest exponent they count
only for numbers that are not zero, and these are out of range where the exponent is not negative.
-/
def readExponentDigits (isZero negative : Bool) (exponent : Nat) (place : Place) :
    List Char → Except Fault (Option Nat)
  | [] => .ok (some exponent)
  | c :: rest =>
      let place := Cursor.placeAfter place c
      let next := exponent * 10 + Text.digitValue c
      if next ≤ greatestExponent then readExponentDigits isZero negative next place rest
      else if isZero ∨ negative then .ok none
      else .error ⟨.outOfRange, place⟩

/-- Reads an exponent after its letter; none stands for one that makes every number zero. -/
def readExponent (isZero : Bool) (cursor : Cursor) : Except Fault (Option Int × Cursor) := do
  let negative := cursor.peek = some '-'
  let cursor := if cursor.peek = some '+' ∨ negative then cursor.skip else cursor
  match cursor.next? with
  | none => cursor.fault .endInValue
  | some (c, after) =>
      if c.isDigit then
        let (digits, rest) := after.span Char.isDigit
        let exponent ← readExponentDigits isZero negative (Text.digitValue c) after.place digits
        pure (exponent.map fun size => if negative then -(size : Int) else size, rest)
      else cursor.faultAhead .badNumber

/-- The number with a significand and an exponent, which has to be in range. -/
def checkRange (negative : Bool) (significand : Nat) (exponent : Int) (cursor : Cursor) :
    Except Fault (Number × Cursor) :=
  if (floatOfParts? significand exponent).isSome then
    .ok (.decimal negative significand exponent, cursor)
  else cursor.fault .outOfRange

/-- Reads what follows the digits of a significand that stands for a number with an exponent of its
own. -/
def readScale (negative : Bool) (significand : Nat) (exponent : Int) (cursor : Cursor) :
    Except Fault (Number × Cursor) := do
  if cursor.peek = some 'e' ∨ cursor.peek = some 'E' then
    match ← readExponent (significand = 0) cursor.skip with
    | (some scale, rest) => checkRange negative significand (exponent + scale) rest
    | (none, rest) => pure (.decimal negative 0 0, rest)
  else checkRange negative significand exponent cursor

/-- The integer with a sign and a size, if it is one of 64 bits. -/
def wholeNumber? (negative : Bool) (size : Nat) : Option Int :=
  if negative then
    if 0 < size ∧ size ≤ 9223372036854775808 then some (-(size : Int)) else none
  else if size < UInt64.size then some size
  else none

/-- Reads a number after its sign. -/
def readUnsigned (negative : Bool) (cursor : Cursor) : Except Fault (Number × Cursor) := do
  match cursor.next? with
  | none => cursor.fault .endInValue
  | some (first, after) =>
      if !first.isDigit then cursor.faultAhead .badNumber
      else if first = '0' ∧ after.peek.any Char.isDigit then after.faultAhead .badNumber
      else
        let (digits, rest) := after.span Char.isDigit
        let (significand, dropped) := addDigits (Text.digitValue first) 0 digits
        if rest.peek = some '.' then
          let point := rest.skip
          let (fraction, rest) := point.span Char.isDigit
          if fraction = [] then
            point.faultAhead (if point.rest = [] then .endInValue else .badNumber)
          else
            let (significand, unused) := addDigits significand 0 fraction
            readScale negative significand (dropped - (fraction.length - unused : Nat)) rest
        else if rest.peek = some 'e' ∨ rest.peek = some 'E' then
          readScale negative significand dropped rest
        else
          match dropped, wholeNumber? negative significand with
          | 0, some value => pure (.whole value, rest)
          | _, _ => checkRange negative significand dropped rest

def readNumber (cursor : Cursor) : Except Fault (Number × Cursor) :=
  if cursor.peek = some '-' then readUnsigned true cursor.skip else readUnsigned false cursor

/-! ## Passing over numbers -/

/-- Passes over an exponent, if one is next. -/
def passExponent (cursor : Cursor) : Except Fault Cursor :=
  if cursor.peek = some 'e' ∨ cursor.peek = some 'E' then
    let cursor := cursor.skip
    let cursor := if cursor.peek = some '+' ∨ cursor.peek = some '-' then cursor.skip else cursor
    if cursor.peek.any Char.isDigit then .ok (cursor.span Char.isDigit).2
    else cursor.faultAhead .badNumber
  else .ok cursor

/-- Passes over a number after its sign, whatever its size. -/
def passUnsigned (cursor : Cursor) : Except Fault Cursor :=
  match cursor.next? with
  | none => cursor.fault .badNumber
  | some (first, after) =>
      if !first.isDigit then cursor.faultAhead .badNumber
      else if first = '0' ∧ after.peek.any Char.isDigit then after.faultAhead .badNumber
      else
        let rest := (after.span Char.isDigit).2
        if rest.peek = some '.' then
          let (fraction, rest) := rest.skip.span Char.isDigit
          if fraction = [] then rest.faultAhead .badNumber else passExponent rest
        else passExponent rest

/-- Passes over a number. -/
def passNumber (cursor : Cursor) : Except Fault Cursor :=
  passUnsigned (if cursor.peek = some '-' then cursor.skip else cursor)

end ClusterOperator.Json
