import ClusterOperator.Condition.Basic
import ClusterOperator.Json.Record
import ClusterOperator.Json.Time

/-!
# Conditions in JSON
-/

namespace ClusterOperator

namespace ConditionStatus

/-- The status with a word. -/
def ofText? (text : String) : Option ConditionStatus :=
  [holds, fails, unknown].find? fun status => status.text = text

def shape : Json.Shape := .word ([holds, fails, unknown].map text)

def ofJson? (json : Json) : Option ConditionStatus := json.alternative?.bind ofText?

@[simp] theorem ofText?_text (status : ConditionStatus) : ofText? status.text = some status := by
  cases status <;> decide

end ConditionStatus

namespace Condition

/-- The members of a condition in the order of their declaration. -/
def memberNames : List String := ["type", "status", "reason", "message", "lastTransitionTime"]

def shape : Json.Shape :=
  .record .strict "Condition"
    [.required "type" .text, .required "status" ConditionStatus.shape, .required "reason" .text,
      .defaulted "message" .text, .required "lastTransitionTime" Instant.shape]

/-- Only the message may be absent. -/
def ofJson? (json : Json) : Option Condition := do
  let members ← json.strictMembers? memberNames
  pure
    { type := ← Json.required Json.string? "type" members
      status := ← Json.required ConditionStatus.ofJson? "status" members
      reason := ← Json.required Json.string? "reason" members
      message := ← Json.defaulted "" Json.string? "message" members
      since := ← Json.required Instant.ofJson? "lastTransitionTime" members }

def toJson (condition : Condition) : Json :=
  .object
    [("type", .string condition.type), ("status", .string condition.status.text),
      ("reason", .string condition.reason), ("message", .string condition.message),
      ("lastTransitionTime", condition.since.toJson)]

/-- The conditions of a status as a member, which is left out where there are none. -/
def listField (conditions : List Condition) : List (String × Json) :=
  if conditions = [] then [] else [("conditions", .array (conditions.map toJson))]

end Condition

end ClusterOperator
