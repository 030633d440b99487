import ClusterOperator.Condition.Basic
import ClusterOperator.Program.Basic

/-!
# Outcomes of passes

Every pass ends in the same way: what came of it is recorded in the conditions of the object, the
changes of the object are written in one patch, and then it is decided when to look again.
-/

namespace ClusterOperator

/-- What came of a pass that did not fail. -/
inductive Outcome where
  /-- All is as it should be. -/
  | success
  /-- Something is not there yet, and nothing is wrong; look again after a while. -/
  | requeue (delay : Duration)
  /-- There is nothing left to do for the object as it was read. -/
  | finished
  deriving DecidableEq

/-- When to look at an object again. -/
inductive Action where
  /-- When it changes. -/
  | awaitChange
  /-- After a while, or when it changes. -/
  | requeue (delay : Duration)
  deriving DecidableEq

/-- When to look again after an outcome. -/
def Outcome.action : Outcome → Action
  | success => .awaitChange
  | requeue delay => .requeue delay
  | finished => .awaitChange

/-- The reason that the conditions give for an error. -/
def Error.reason : Error → String
  | validation _ _ => "ValidationFailed"
  | _ => "ReconcileError"

/-- The conditions after a pass. Only successes and errors are recorded. -/
def recordIn (now : Instant) (result : Except Error Outcome) (conditions : List Condition) :
    List Condition :=
  match result with
  | .ok .success => Condition.markSuccess now conditions
  | .ok _ => conditions
  | .error error => Condition.markError error.reason error.message now conditions

namespace Resource

variable {Spec Status : Type} [HasConditions Status]

/-- The status of an object; where it has none, the one of which nothing is known. -/
def statusOrInitial (resource : Resource Spec Status) : Status :=
  resource.status.getD HasConditions.initial

/-- The object with its conditions changed. -/
def mapConditions (change : List Condition → List Condition) (resource : Resource Spec Status) :
    Resource Spec Status :=
  let status := resource.statusOrInitial
  { resource with
    status := some <|
      HasConditions.withConditions status (change (HasConditions.conditions status)) }

/-- The object with the outcome of a pass in its conditions. -/
def record (now : Instant) (result : Except Error Outcome) (resource : Resource Spec Status) :
    Resource Spec Status :=
  match result with
  | .ok .success => resource.mapConditions (recordIn now result)
  | .ok _ => resource
  | .error _ => resource.mapConditions (recordIn now result)

end Resource

/-- What a pass has come to once its changes were written, or were not. The error of the pass itself
goes before that of the write. -/
def settle (result : Except Error Outcome) (written : Except Error Unit) : Except Error Outcome :=
  match result, written with
  | .ok _, .error error => .error error
  | result, _ => result

namespace Program

/-- Ends a pass. A pass that did not fail makes earlier failures of the object no longer count; an
error that only the user can mend waits for a change of the object; other errors are left to the
operator, which tries again. -/
def conclude (failureKey : String) : Except Error Outcome → Fallible Action
  | .ok outcome => do
      write (.settled failureKey)
      pure outcome.action
  | .error error => if error.isPermanent then pure .awaitChange else throw error

/-- Ends a pass on an object that is not to be touched. -/
def leave (failureKey : String) : Fallible Action := do
  write (.settled failureKey)
  pure .awaitChange

end Program

end ClusterOperator
