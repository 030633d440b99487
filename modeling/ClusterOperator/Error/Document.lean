import ClusterOperator.Error
import ClusterOperator.Json.Time

/-!
# Errors in JSON

The document of an error names its kind and gives the details in further members.
-/

namespace ClusterOperator

/-- The name of a fault in documents. -/
def RemoteFault.kindName : RemoteFault → String
  | alreadyExists => "AlreadyExists"
  | notFound => "NotFound"
  | unavailable => "Unavailable"
  | rejected => "Rejected"

def RemoteFault.ofKindName? (name : String) : Option RemoteFault :=
  [alreadyExists, notFound, unavailable, rejected].find? fun fault => fault.kindName = name

namespace Error

/-- The name of a kind of errors in documents. -/
def kindName : Error → String
  | api _ => "Kube"
  | validation _ _ => "Validation"
  | remote _ _ _ _ => "Remote"
  | attributeConflict _ _ _ => "SearchAttributeConflict"
  | unknownAttributeType _ _ => "UnknownSearchAttributeType"
  | missingCluster _ _ => "MissingCluster"
  | builder _ _ => "Builder"
  | conflict _ _ => "Conflict"
  | timeout _ _ => "Timeout"
  | serialization _ => "Serialization"
  | internal _ _ => "Internal"

def ofJson? (json : Json) : Option Error := do
  let text := fun name => (json.field? name).bind Json.string?
  match ← text "kind" with
  | "Kube" => pure (.api (.refused "Failure" "" "" (← (← json.field? "code").word? 16)))
  | "Validation" => pure (.validation (← text "object") (← text "message"))
  | "Remote" =>
      let fault ← RemoteFault.ofKindName? (← text "remoteKind")
      pure (.remote (← text "operation") (← text "target") fault (← text "message"))
  | "SearchAttributeConflict" =>
      pure (.attributeConflict (← text "name") (← text "declared") (← text "existing"))
  | "UnknownSearchAttributeType" =>
      pure (.unknownAttributeType (← text "name") (← text "value"))
  | "MissingCluster" => pure (.missingCluster (← text "object") (← text "cluster"))
  | "Builder" => pure (.builder (← text "resource") (← text "message"))
  | "Conflict" => pure (.conflict (← text "object") (← text "message"))
  | "Timeout" => pure (.timeout (← text "object") (← (json.field? "after").bind Duration.ofParts?))
  | "Serialization" => pure (.serialization (← text "message"))
  | "Internal" => pure (.internal (← text "context") (← text "message"))
  | _ => none

/-- The kind of an error with its text, or with its code where the API server gave one. -/
def toJson (error : Error) : Json :=
  match error with
  | .api failure =>
      .object
        [("error", .string error.kindName),
          ("code", Json.orNull (fun code => .integer (Int.ofNat code)) failure.code?)]
  | error => .object [("error", .string error.kindName), ("message", .string error.message)]

end Error

end ClusterOperator
