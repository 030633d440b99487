import ClusterOperator.Json.Number
import ClusterOperator.Json.Text

/-!
# Passing over values

A value that nobody asks for is only passed over: however deep it is, and whatever its numbers and
texts say, it just has to be written as a value.
-/

namespace ClusterOperator.Json

/-- What a value that is being passed over is in. -/
inductive Bracket where
  | list
  | object
  deriving DecidableEq

namespace Bracket

/-- The character that ends a list or an object. -/
def closing : Bracket → Char
  | list => ']'
  | object => '\x7d'

/-- What is wrong where the text ends inside. -/
def endReason : Bracket → FaultReason
  | list => .endInList
  | object => .endInObject

/-- What is wrong where nothing separates two values. -/
def commaReason : Bracket → FaultReason
  | list => .listCommaExpected
  | object => .objectCommaExpected

end Bracket

/-- Passes over the name of a member and the colon after it. -/
def passName (cursor : Cursor) : Except Fault Cursor := do
  let cursor := cursor.skipGap
  match cursor.peek with
  | none => cursor.faultAhead .endInObject
  | some '"' =>
      let cursor := (← passText cursor.skip).skipGap
      match cursor.peek with
      | none => cursor.faultAhead .endInObject
      | some ':' => pure cursor.skip
      | some _ => cursor.faultAhead .colonExpected
  | some _ => cursor.faultAhead .keyExpected

/-- Passes over what begins before a value in a list or an object. -/
def passOpening (bracket : Bracket) (cursor : Cursor) : Except Fault Cursor :=
  match bracket with
  | .list => .ok cursor
  | .object => passName cursor

mutual

/-- Passes over a value and over what it is in. -/
def passFrom : Nat → List Bracket → Cursor → Except Fault Cursor
  | 0, _, cursor => cursor.fault .tooDeep
  | fuel + 1, outer, cursor =>
      let cursor := cursor.skipGap
      match cursor.peek with
      | none => cursor.faultAhead .endInValue
      | some 'n' => do passAfter fuel true outer (← cursor.skip.readWord ['u', 'l', 'l'])
      | some 't' => do passAfter fuel true outer (← cursor.skip.readWord ['r', 'u', 'e'])
      | some 'f' => do passAfter fuel true outer (← cursor.skip.readWord ['a', 'l', 's', 'e'])
      | some '"' => do passAfter fuel true outer (← passText cursor.skip)
      | some '[' => passAfter fuel false (.list :: outer) cursor.skip
      | some '\x7b' => passAfter fuel false (.object :: outer) cursor.skip
      | some c =>
          if c = '-' ∨ c.isDigit then do passAfter fuel true outer (← passNumber cursor)
          else cursor.faultAhead .valueExpected

/-- Passes over the rest of what a value is in; a comma can follow a value only. -/
def passAfter : Nat → Bool → List Bracket → Cursor → Except Fault Cursor
  | _, _, [], cursor => .ok cursor
  | 0, _, _, cursor => cursor.fault .tooDeep
  | fuel + 1, afterValue, bracket :: outer, cursor =>
      let cursor := cursor.skipGap
      match cursor.peek with
      | none => cursor.faultAhead bracket.endReason
      | some c =>
          if c = bracket.closing then passAfter fuel true outer cursor.skip
          else if afterValue then
            if c = ',' then do
              passFrom fuel (bracket :: outer) (← passOpening bracket cursor.skip)
            else cursor.faultAhead bracket.commaReason
          else do passFrom fuel (bracket :: outer) (← passOpening bracket cursor)

end

/-- Passes over a value. -/
def pass (cursor : Cursor) : Except Fault Cursor :=
  passFrom (2 * cursor.rest.length + 2) [] cursor

end ClusterOperator.Json
