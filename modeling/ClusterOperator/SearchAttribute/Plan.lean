import ClusterOperator.Error
import ClusterOperator.SearchAttribute.Type
import ClusterOperator.SortedMap.Basic

/-!
# Plans for search attributes

What has to be removed from a server and added to it so that it has exactly the attributes of a
spec. An attribute cannot change its type, so there is no plan where the server knows a name of the
spec under another type.
-/

namespace ClusterOperator

/-- The changes that bring a server's attributes to those of a spec. -/
structure AttributePlan where
  removals : List String
  additions : StringMap AttributeType
  deriving DecidableEq

namespace AttributePlan

/-- Whether there is nothing to change. -/
def isEmpty (plan : AttributePlan) : Bool := plan.removals.isEmpty && plan.additions.isEmpty

/-- The types that a spec names; fails at the first name whose type does not exist. -/
def namedTypes (spec : StringMap String) : Except Error (StringMap AttributeType) :=
  spec.traverse fun name value =>
    match AttributeType.ofName? value with
    | some type => .ok type
    | none => .error (.unknownAttributeType name value)

/-- The first wanted attribute that a server knows under another type. -/
def clash? (wanted present : StringMap AttributeType) : Option Error :=
  wanted.entries.findSome? fun (name, type) =>
    (present.get? name).bind fun existing =>
      if existing = type then none else some (.attributeConflict name type.name existing.name)

/-- The changes between two sets of attributes without a clash. -/
def between (wanted present : StringMap AttributeType) : AttributePlan where
  removals := present.keys.filter fun name => !wanted.contains name
  additions := wanted.filter fun name _ => !present.contains name

/-- The changes that bring a server's attributes to those of a spec. -/
def make (spec : StringMap String) (present : StringMap AttributeType) :
    Except Error AttributePlan := do
  let wanted ← namedTypes spec
  match clash? wanted present with
  | some problem => .error problem
  | none => .ok (between wanted present)

end AttributePlan

end ClusterOperator
