import ClusterOperator.Error
import ClusterOperator.Text.Basic

/-!
# Reading durations

A duration is written as `0` or as a sequence of numbers, each followed by a unit: hours `h`,
minutes `m`, seconds `s` or milliseconds `ms`. A number is a run of digits with at most one point
among them. The terms are added up from left to right in binary64 arithmetic, in seconds.
-/

namespace ClusterOperator.Duration

/-- The characters that a number is made of; all others belong to units. -/
def isNumeral (c : Char) : Bool := c.isDigit || c == '.'

/-- Cuts a text into the longest runs of numerals and of other characters, in turn. -/
def runs : List Char → List (List Char)
  | [] => []
  | c :: rest =>
      match runs rest with
      | (d :: run) :: others =>
          if isNumeral c = isNumeral d then (c :: d :: run) :: others
          else [c] :: (d :: run) :: others
      | others => [c] :: others

/-- The binary64 number nearest to a decimal number of at least one digit and at most one point. -/
def number? (run : List Char) : Option Float :=
  let whole := run.takeWhile Char.isDigit
  let fraction := (run.dropWhile Char.isDigit).drop 1
  let point := (run.dropWhile Char.isDigit).take 1
  if (point = [] ∨ point = ['.']) ∧ fraction.all Char.isDigit ∧ whole ++ fraction ≠ [] then
    some (Float.ofScientific (Text.decimalValue (whole ++ fraction)) true fraction.length)
  else none

/-- The length of a unit in seconds. -/
def unitSeconds? (unit : List Char) : Option Float :=
  if unit = ['h'] then some 3600
  else if unit = ['m'] then some 60
  else if unit = ['s'] then some 1
  else if unit = ['m', 's'] then some 0.001
  else none

/-- Adds the terms of a sequence of numbers and units to a sum of seconds. -/
def addTerms (sum : Float) : List (List Char) → Option Float
  | [] => some sum
  | [_] => none
  | number :: unit :: rest =>
      match number? number, unitSeconds? unit with
      | some value, some scale => addTerms (sum + value * scale) rest
      | _, _ => none

/-- Reads a duration; blanks around it do not count. -/
def read? (text : String) : Option Duration :=
  match Text.trim text.toList with
  | [] => none
  | ['0'] => some zero
  | written => (addTerms 0 (runs written)).bind ofSeconds?

/-- Reads a duration, or refuses the text. -/
def read (text : String) : Except Error Duration :=
  match read? text with
  | some span => .ok span
  | none => .error (.unreadableDuration text)

end ClusterOperator.Duration
