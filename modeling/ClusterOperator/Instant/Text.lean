import ClusterOperator.Duration.Text
import ClusterOperator.Instant.Basic
import ClusterOperator.Text.Basic

/-!
# Instants as text

Time stamps are written in Universal Time, as in `2024-01-31T12:00:00Z`, with a fraction of no,
three, six or nine digits before the `Z`. They are read more loosely than they are written.
-/

namespace ClusterOperator.Instant

/-! ## Writing -/

/-- A year: four digits, or a sign and at least four digits outside the years 0 to 9999. -/
def yearText (year : Int) : String :=
  if 0 ≤ year ∧ year ≤ 9999 then padded 4 year.toNat
  else (if year < 0 then "-" else "+") ++ padded 4 year.natAbs

/-- The fraction of a second in three, six or nine digits, as few as it takes, with its point. -/
def fractionText (nanos : Nat) : String :=
  if nanos = 0 then ""
  else if nanos % 1_000_000 = 0 then "." ++ padded 3 (nanos / 1_000_000)
  else if nanos % 1000 = 0 then "." ++ padded 6 (nanos / 1000)
  else "." ++ padded 9 nanos

/-- Day and time of an instant up to the seconds, and its nanoseconds. -/
def wholeText (time : Instant) : String :=
  let date := CivilDate.ofDays (time.seconds.fdiv 86400)
  let second := (time.seconds.fmod 86400).toNat
  let leap := if time.nanos < 1_000_000_000 then 0 else 1
  yearText date.year ++ "-" ++ padded 2 date.month ++ "-" ++ padded 2 date.day ++ "T" ++
    padded 2 (second / 3600) ++ ":" ++ padded 2 (second % 3600 / 60) ++ ":" ++
    padded 2 (second % 60 + leap)

/-- The written form of a time stamp. -/
def toText (time : Instant) : String :=
  time.wholeText ++ fractionText (time.nanos % 1_000_000_000) ++ "Z"

/-- The written form without a fraction of a second. -/
def toSecondsText (time : Instant) : String := time.wholeText ++ "Z"

end ClusterOperator.Instant

/-! ## Reading

Blanks may stand before every part, a blank, `T` or `t` separates day and time, numbers may have
fewer digits, and any offset below a day is allowed. What is wrong with a text is what is found first
from left to right. Whether the day exists and the instant can be represented is looked at in the
end.
-/

namespace ClusterOperator

/-- Why a text is no time stamp. -/
inductive InstantFault where
  | invalid
  | tooShort
  | tooLong
  | outOfRange
  /-- The instant is just outside the range that the day is in. -/
  | impossible
  deriving DecidableEq

/-- The words for what is wrong with a time stamp. -/
def InstantFault.text : InstantFault → String
  | invalid => "input contains invalid characters"
  | tooShort => "premature end of input"
  | tooLong => "trailing input"
  | outOfRange => "input is out of range"
  | impossible => "no possible date and time matching input"

namespace Instant

/-- Whether a part is within its range. -/
def inRange (isAllowed : Bool) : Except InstantFault Unit :=
  if isAllowed then .ok () else .error .outOfRange

/-- Reads a run of digits, at least one and at most `width`. -/
def readDigits (width : Nat) (text : List Char) : Except InstantFault (List Char × List Char) :=
  match text with
  | [] => .error .tooShort
  | c :: _ =>
      if c.isDigit then
        let digits := (text.takeWhile Char.isDigit).take width
        .ok (digits, text.drop digits.length)
      else .error .invalid

/-- Reads a number of at most two digits between bounds, both included, after any blanks. -/
def readPart (low high : Nat) (text : List Char) : Except InstantFault (Nat × List Char) := do
  let (digits, rest) ← readDigits 2 (Text.trimStart text)
  let value := Text.decimalValue digits
  inRange (low ≤ value && value ≤ high)
  pure (value, rest)

/-- Reads a year: four digits at most, or a sign and any number of digits. -/
def readYear (text : List Char) : Except InstantFault (Int × List Char) := do
  let read := fun (isNegative : Bool) (width : Nat) (text : List Char) => do
    let (digits, rest) ← readDigits width text
    let size : Int := Text.decimalValue digits
    let year := if isNegative then -size else size
    inRange (-2147483648 ≤ year && year ≤ 2147483647)
    pure (year, rest)
  match Text.trimStart text with
  | '-' :: rest => read true rest.length rest
  | '+' :: rest => read false rest.length rest
  | text => read false 4 text

/-- Reads a sign between two parts, after any blanks. -/
def readSign (sign : Char) (text : List Char) : Except InstantFault (List Char) :=
  match Text.trimStart text with
  | c :: rest => if c = sign then .ok rest else .error .invalid
  | [] => .error .tooShort

/-- Reads what separates day and time. -/
def readSeparator : List Char → Except InstantFault (List Char)
  | 'T' :: rest => .ok rest
  | 't' :: rest => .ok rest
  | ' ' :: rest => .ok rest
  | _ :: _ => .error .invalid
  | [] => .error .tooShort

/-- Reads a fraction of a second, if one follows; digits after the ninth do not count. -/
def readFraction (text : List Char) : Except InstantFault (Nat × List Char) :=
  match text with
  | '.' :: rest => do
      let (digits, rest) ← readDigits 9 rest
      pure (Text.decimalValue digits * Nat.pow 10 (9 - digits.length), rest.dropWhile Char.isDigit)
  | _ => .ok (0, text)

/-- Reads two digits of an offset. A character beyond ASCII is as long as two of them. -/
def readPair (text : List Char) : Except InstantFault (Nat × Nat × List Char) :=
  match text with
  | tens :: ones :: rest =>
      if tens.isDigit ∧ ones.isDigit then .ok (Text.digitValue tens, Text.digitValue ones, rest)
      else .error .invalid
  | [c] => .error (if c.utf8Size < 2 then .tooShort else .invalid)
  | [] => .error .tooShort

/-- Reads hours and minutes of an offset, with or without a colon between them, as seconds. -/
def readOffsetTime (text : List Char) : Except InstantFault (Int × List Char) := do
  let (tens, ones, text) ← readPair text
  let hours := tens * 10 + ones
  let (tens, ones, text) ← readPair (text.dropWhile fun c => c == ':' || Text.isBlank c)
  inRange (tens ≤ 5)
  pure ((hours * 3600 + (tens * 10 + ones) * 60 : Nat), text)

/-- Reads an offset from Universal Time, in seconds. -/
def readOffset (text : List Char) : Except InstantFault (Int × List Char) :=
  if (text.take 3).map Char.toUpper = ['U', 'T', 'C'] then .ok (0, text.drop 3)
  else
    let west := fun rest : List Char => do
      let (offset, rest) ← readOffsetTime rest
      pure (-offset, rest)
    match text with
    | 'Z' :: rest => .ok (0, rest)
    | 'z' :: rest => .ok (0, rest)
    | '+' :: rest => readOffsetTime rest
    | '-' :: rest => west rest
    | '−' :: rest => west rest
    | _ :: _ => .error .invalid
    | [] => .error .tooShort

/-- The years of the instants that can be read. -/
def isYearInRange (year : Int) : Bool := -262143 ≤ year && year ≤ 262142

/-- The day of a year, month and day that exist. -/
def readDate (year : Int) (month day : Nat) : Except InstantFault CivilDate :=
  match CivilDate.of? year month day with
  | some date => if isYearInRange year then .ok date else .error .outOfRange
  | none => .error .outOfRange

/-- Reads a time stamp. The sixtieth second of a minute is a leap second. -/
def read (text : String) : Except InstantFault Instant := do
  let (year, text) ← readYear text.toList
  let (month, text) ← readPart 1 12 (← readSign '-' text)
  let (day, text) ← readPart 1 31 (← readSign '-' text)
  let (hour, text) ← readPart 0 23 (← readSeparator text)
  let (minute, text) ← readPart 0 59 (← readSign ':' text)
  let (second, text) ← readPart 0 60 (← readSign ':' text)
  let (fraction, text) ← readFraction text
  let (offset, text) ← readOffset (Text.trimStart text)
  if Text.trimStart text ≠ [] then .error .tooLong
  let date ← readDate year month day
  inRange (offset.natAbs < 86400)
  let leap := second / 60
  let clock : Int := hour * 3600 + minute * 60 + (second - leap : Nat)
  let seconds := date.toDays * 86400 + clock - offset
  if isYearInRange (CivilDate.ofDays (seconds.fdiv 86400)).year then
    pure ⟨seconds, fraction + leap * 1_000_000_000⟩
  else .error .impossible

/-- The instant that a text says, if it is a time stamp. -/
def read? (text : String) : Option Instant := (read text).toOption

end Instant

end ClusterOperator
