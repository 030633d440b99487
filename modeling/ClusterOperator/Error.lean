import ClusterOperator.Duration.Text
import ClusterOperator.Text.Quoted

/-!
# Errors

What can stop a pass, with the one wording of each cause. The wording is what a user reads in the
conditions of an object, so it names the object and the operation.
-/

namespace ClusterOperator

/-- Why a server did not do what it was asked. -/
inductive RemoteFault where
  /-- What was to be created is there already. -/
  | alreadyExists
  /-- What was to be read or removed is not there. -/
  | notFound
  /-- The server could not be reached or is overloaded. -/
  | unavailable
  /-- The server refused. -/
  | rejected
  deriving DecidableEq

/-- The words for a fault. -/
def RemoteFault.text : RemoteFault → String
  | alreadyExists => "already exists"
  | notFound => "not found"
  | unavailable => "unavailable"
  | rejected => "rejected"

/-- How a request to the API server failed. -/
inductive ApiFailure where
  /-- The API server answered with an error. -/
  | refused (status message reason : String) (code : Nat)
  /-- There was no answer, or none that can be read. -/
  | lost (problem : String)
  deriving DecidableEq

/-- The code of an answer; a lost request has none. -/
def ApiFailure.code? : ApiFailure → Option Nat
  | refused _ _ _ code => some code
  | lost _ => none

/-- The words for a failed request. -/
def ApiFailure.text : ApiFailure → String
  | refused status message reason code =>
      "ApiError: " ++ message ++ ": " ++ reason ++ " (ErrorResponse \x7b status: " ++
        Text.quote status ++ ", message: " ++ Text.quote message ++ ", reason: " ++
        Text.quote reason ++ ", code: " ++ toString code ++ " \x7d)"
  | lost problem => problem

/-- What can stop a pass. -/
inductive Error where
  /-- A request to the API server failed. -/
  | api (failure : ApiFailure)
  /-- The spec of an object breaks a rule. -/
  | validation (object message : String)
  /-- A call to a server failed. -/
  | remote (operation target : String) (fault : RemoteFault) (message : String)
  /-- A server knows a search attribute under another type. -/
  | attributeConflict (name declared existing : String)
  /-- A spec gives a search attribute a type that does not exist. -/
  | unknownAttributeType (name value : String)
  /-- A namespace refers to a cluster that does not exist. -/
  | missingCluster (object cluster : String)
  /-- A child object cannot be brought into shape. -/
  | builder (resource message : String)
  /-- Somebody else wrote the object first. -/
  | conflict (object message : String)
  /-- A pass took longer than it may. -/
  | timeout (object : String) (after : Duration)
  /-- A text is not the written form of anything. -/
  | serialization (message : String)
  /-- Something that is not the user's doing. -/
  | internal (context message : String)
  deriving DecidableEq

namespace Error

/-- The error of a text that should be a duration. -/
def unreadableDuration (text : String) : Error :=
  .serialization ("invalid duration " ++ Text.quote text)

/-- The text of an error. -/
def message : Error → String
  | api failure => "kubernetes error: " ++ failure.text
  | validation object message => "validation error for " ++ object ++ ": " ++ message
  | remote operation target fault message =>
      "temporal " ++ operation ++ " failed for " ++ target ++ " (" ++ fault.text ++ "): " ++ message
  | attributeConflict name declared existing =>
      "search attribute " ++ name ++ " already exists with type " ++ existing ++
        ", spec declares " ++ declared
  | unknownAttributeType name value =>
      "unsupported type " ++ Text.quote value ++ " for search attribute " ++ name
  | missingCluster object cluster => object ++ " references missing TemporalCluster " ++ cluster
  | builder resource message => "failed to build " ++ resource ++ ": " ++ message
  | conflict object message => "conflict writing " ++ object ++ ": " ++ message
  | timeout object after => "reconcile of " ++ object ++ " timed out after " ++ after.describe
  | serialization message => "serialization error: " ++ message
  | internal context message => "internal error [" ++ context ++ "]: " ++ message

/-- The fault of a call to a server. -/
def remoteFault? : Error → Option RemoteFault
  | remote _ _ fault _ => some fault
  | _ => none

/-- Whether a server reported that what was to be created is there already. -/
def isAlreadyExists (error : Error) : Bool := error.remoteFault? == some .alreadyExists

/-- Whether a server or the API server reported that the target is gone. -/
def isNotFound : Error → Bool
  | remote _ _ fault _ => fault == .notFound
  | api failure => failure.code? == some 404
  | _ => false

/-- Whether the user has to change an object before another attempt can succeed. -/
def isPermanent : Error → Bool
  | validation _ _ => true
  | unknownAttributeType _ _ => true
  | _ => false

/-- Whether another attempt may succeed. -/
def isRetryable (error : Error) : Bool := !error.isPermanent

end Error

end ClusterOperator
