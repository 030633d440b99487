import ClusterOperator.Json.Record
import ClusterOperator.Json.Shape
import ClusterOperator.SearchAttribute.Plan

/-!
# Search attributes in JSON
-/

namespace ClusterOperator

namespace AttributeType

def shape : Json.Shape := .word (all.map wireName)

/-- Reads a type by its name on servers. -/
def ofJson? (json : Json) : Option AttributeType := json.alternative?.bind ofWireName?

def toJson (type : AttributeType) : Json := .string type.wireName

/-- A map of types as a document. -/
def mapToJson (types : StringMap AttributeType) : Json :=
  .object (types.entries.map fun entry => (entry.1, entry.2.toJson))

end AttributeType

namespace AttributePlan

/-- The names to remove as a document. -/
def removalsToJson (plan : AttributePlan) : Json := Json.ofTextList plan.removals

/-- The attributes to add as a document. -/
def additionsToJson (plan : AttributePlan) : Json := AttributeType.mapToJson plan.additions

end AttributePlan

end ClusterOperator
