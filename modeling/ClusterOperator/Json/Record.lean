import ClusterOperator.Json.Basic

/-!
# Records in JSON

A record is written as an object. A strict record may also be written as the array of its members in
the order of their declaration, and it refuses an object that writes one of its members twice. A
lenient record is an object in which the last of several members with one name counts.

Members that a record does not know are ignored in both.
-/

namespace ClusterOperator.Json

/-- The known members of a strict record, in any order and each at most once. -/
def strictMembers? (names : List String) : Json → Option (List (String × Json))
  | object fields =>
      let known := fields.filter fun field => field.1 ∈ names
      if (known.map Prod.fst).Nodup then some known else none
  | array items => if items.length ≤ names.length then some (names.zip items) else none
  | _ => none

/-- The members of a lenient record, the last ones first. -/
def lenientMembers? : Json → Option (List (String × Json))
  | object fields => some fields.reverse
  | _ => none

variable {α : Type}

/-- Reads a member that has to be there. -/
def required (read : Json → Option α) (name : String) (members : List (String × Json)) : Option α :=
  (lookup name members).bind read

/-- Reads a member, with a value for where it is absent; `null` does not count as absent. -/
def defaulted (fallback : α) (read : Json → Option α) (name : String)
    (members : List (String × Json)) : Option α :=
  match lookup name members with
  | none => some fallback
  | some value => read value

/-- Reads a member that is unset where it is absent or `null`. -/
def optional (read : Json → Option α) (name : String) (members : List (String × Json)) :
    Option (Option α) :=
  match lookup name members with
  | none => some none
  | some null => some none
  | some value => (read value).map some

/-- Reads a member, with a value for where it is absent or `null`. -/
def orElse (fallback : α) (read : Json → Option α) (name : String)
    (members : List (String × Json)) : Option α :=
  (optional read name members).map (·.getD fallback)

/-- The members with one of some names as they are, in the order of the names. One that is `null`
is left out. -/
def kept (names : List String) (members : List (String × Json)) : List (String × Json) :=
  names.filterMap fun name =>
    match lookup name members with
    | none => none
    | some null => none
    | some value => some (name, value)

/-- The name of an alternative without contents: a text, or an object whose only member has that
name and the value `null`. -/
def alternative? : Json → Option String
  | string name => some name
  | object [(name, null)] => some name
  | _ => none

end ClusterOperator.Json
