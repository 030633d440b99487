import ClusterOperator.Instant.Basic

/-!
# Conditions

The conditions in the status of an object: at most one of each type, each with the time of its last
change of status. Writing a condition that says nothing new changes nothing, and a change of words
alone does not move the time.
-/

namespace ClusterOperator

/-- Whether a condition holds. -/
inductive ConditionStatus where
  | holds
  | fails
  | unknown
  deriving DecidableEq

/-- The word for a status. -/
def ConditionStatus.text : ConditionStatus → String
  | holds => "True"
  | fails => "False"
  | unknown => "Unknown"

/-- A condition, and since when its status is what it is. -/
structure Condition where
  type : String
  status : ConditionStatus
  reason : String
  message : String
  since : Instant
  deriving DecidableEq

namespace Condition

/-- The type of the condition that says whether an object is ready for use. -/
def readyType : String := "Ready"

/-- The type of the condition that says whether the last pass succeeded. -/
def successType : String := "ReconcileSuccess"

/-- The type of the condition that says whether the last pass failed. -/
def errorType : String := "ReconcileError"

/-- Whether two conditions say the same, whenever they were written. -/
def saysSame (left right : Condition) : Bool :=
  left.status = right.status && left.reason = right.reason && left.message = right.message

/-- The new words of a condition; the time moves only where the status changes. -/
def revise (held new : Condition) : Condition :=
  { new with since := if held.status = new.status then held.since else new.since }

def find? (type : String) (conditions : List Condition) : Option Condition :=
  conditions.find? fun condition => condition.type = type

/-- Whether there is a condition of a type and it holds. -/
def isTrue (type : String) (conditions : List Condition) : Bool :=
  (find? type conditions).any fun condition => condition.status = .holds

/-- Writes a condition in the place of the one of its type, or at the end; also says whether the
list changed. -/
def set (new : Condition) : List Condition → List Condition × Bool
  | [] => ([new], true)
  | held :: rest =>
      if held.type = new.type then
        if held.saysSame new then (held :: rest, false) else (held.revise new :: rest, true)
      else
        let (rest, changed) := set new rest
        (held :: rest, changed)

/-- Removes the conditions of a type; also says whether there was one. -/
def remove (type : String) (conditions : List Condition) : List Condition × Bool :=
  let kept := conditions.filter fun condition => condition.type ≠ type
  (kept, kept.length ≠ conditions.length)

/-- Records that a pass succeeded: success holds and there is no error any more. -/
def markSuccess (now : Instant) (conditions : List Condition) : List Condition :=
  let success : Condition :=
    { type := successType, status := .holds, reason := "ReconcileSuccess", message := "",
      since := now }
  (remove errorType (set success conditions).1).1

/-- Records that a pass failed: the error holds, with its text, and success does not. -/
def markError (reason message : String) (now : Instant) (conditions : List Condition) :
    List Condition :=
  let error : Condition :=
    { type := errorType, status := .holds, reason, message, since := now }
  let success : Condition :=
    { type := successType, status := .fails, reason, message := "", since := now }
  (set success (set error conditions).1).1

end Condition

/-- A status that carries conditions. -/
class HasConditions (Status : Type) where
  /-- The status of an object of which nothing is known yet. -/
  initial : Status
  conditions : Status → List Condition
  withConditions : Status → List Condition → Status

end ClusterOperator
