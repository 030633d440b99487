import ClusterOperator.Json.Basic
import ClusterOperator.Text.Basic

/-!
# JSON pointers

A pointer names a place in a document by the members and indices on the way to it.
-/

namespace ClusterOperator.Json

/-- Undoes the escapes of a pointer's step: `~1` stands for a slash and `~0` for a tilde. -/
def pointerStep : List Char → List Char
  | '~' :: '1' :: rest => '/' :: pointerStep rest
  | '~' :: '0' :: rest => '~' :: pointerStep rest
  | c :: rest => c :: pointerStep rest
  | [] => []

/-- An index is written in decimal digits without a leading zero. -/
def pointerIndex? (step : List Char) : Option Nat :=
  if step ≠ [] ∧ step.all Char.isDigit ∧ (step.head? = some '0' → step.length = 1) then
    some (Text.decimalValue step)
  else none

/-- One step from a value to a part of it. -/
def descend (json : Json) (step : List Char) : Option Json :=
  match json with
  | object fields => lookup (String.ofList step) fields
  | array items => (pointerIndex? step).bind (items[·]?)
  | _ => none

/-- Cuts a text at every slash. -/
def splitSlashes : List Char → List (List Char)
  | [] => [[]]
  | '/' :: rest => [] :: splitSlashes rest
  | c :: rest =>
      match splitSlashes rest with
      | [] => [[c]]
      | first :: others => (c :: first) :: others

/-- The value at a pointer, if there is one. The empty pointer names the whole document; any other
starts with a slash. -/
def pointer? (json : Json) (pointer : String) : Option Json :=
  match pointer.toList with
  | [] => some json
  | '/' :: rest =>
      (splitSlashes rest).foldlM (fun json step => descend json (pointerStep step)) json
  | _ => none

end ClusterOperator.Json
