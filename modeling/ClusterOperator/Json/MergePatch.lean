import ClusterOperator.Json.Basic

/-!
# Merge patches

A merge patch is a document that resembles the one it changes: a member with the value `null`
removes the member of that name, an object changes a member by the same rule, and any other value
takes the place of the old one.
-/

namespace ClusterOperator.Json

/-- Members without those of one name. -/
def without (name : String) (fields : List (String × Json)) : List (String × Json) :=
  fields.filter fun field => field.1 ≠ name

/-- Members with one set: in the place of the member of that name, or at the end. -/
def withField (name : String) (value : Json) : List (String × Json) → List (String × Json)
  | [] => [(name, value)]
  | (other, held) :: rest =>
      if other = name then (name, value) :: rest else (other, held) :: withField name value rest

mutual

/-- The document that a merge patch makes of a target. -/
def mergePatch (target : Json) : Json → Json
  | object changes => object (mergeFields target.fields changes)
  | replacement => replacement

/-- The members of an object after the changes of a patch, one after the other. -/
def mergeFields (fields : List (String × Json)) : List (String × Json) → List (String × Json)
  | [] => fields
  | (name, null) :: rest => mergeFields (without name fields) rest
  | (name, change) :: rest =>
      mergeFields (withField name (mergePatch ((lookup name fields).getD null) change) fields) rest

end

end ClusterOperator.Json
