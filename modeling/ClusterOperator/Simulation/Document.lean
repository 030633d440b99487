import ClusterOperator.Error.Document
import ClusterOperator.SearchAttribute.Document
import ClusterOperator.Simulation.World

/-!
# Worlds in JSON

The documents that script a world in memory: faults and edits, what its server holds, and the log of
requests. An entry of the log is the kind of the request with a detail.
-/

namespace ClusterOperator

def ObjectKey.ofJson? (json : Json) : Option ObjectKey := do
  pure ⟨← (← json.field? "namespace").string?, ← (← json.field? "name").string?⟩

/-- Reads the kind of an object to edit. -/
def EditTarget.ofKind? (kind : String) (key : ObjectKey) : Option EditTarget :=
  if kind = Cluster.kind then some (.cluster key)
  else if kind = Namespace.kind then some (.ns key)
  else (ChildKind.ofText? kind).map fun kind => .child ⟨kind, key⟩

def Edit.ofJson? (json : Json) : Option Edit := do
  let kind ← (← json.field? "kind").string?
  let target ← EditTarget.ofKind? kind (← ObjectKey.ofJson? json)
  pure { target, changes := ← json.field? "merge" }

def Fault.ofJson? (json : Json) : Option Fault := do
  let milliseconds := ((json.field? "sleep_ms").bind (Json.word? 64)).getD 0
  pure
    { point := ← (← json.field? "at").string?
      skip := ((json.field? "skip").bind (Json.word? 64)).getD 0
      repeats := ((json.field? "repeat").bind Json.bool?).getD false
      sleep := milliseconds * 1_000_000
      edit := ← Json.optional Edit.ofJson? "edit" json.fields
      error := ← Json.optional Error.ofJson? "error" json.fields }

namespace Server

/-- Reads what a server holds. -/
def ofJson? (json : Json) : Option Server := json.mapOf? (Json.mapOf? AttributeType.ofJson?)

/-- What a server holds as a document. -/
def toJson (server : Server) : Json :=
  .object (server.entries.map fun entry => (entry.1, AttributeType.mapToJson entry.2))

end Server

/-- A request for a namespace as a document, with the exact retention. -/
def NamespaceRequest.toJson (request : NamespaceRequest) : Json :=
  .object (request.fields ++ [("retention", request.retention.toParts)])

/-- What the log tells of a patch. -/
def ObjectPatch.detail {Status : Type} (patch : ObjectPatch Status) (key : ObjectKey) : Json :=
  .array
    [.string key.text, Json.orNull .string patch.resourceVersion,
      Json.orNull Json.ofTextList patch.finalizers, .bool patch.status.isSome]

/-- What the log tells of a request to the store. -/
def StoreRequest.detail : StoreRequest → Json
  | getCluster key => .string key.text
  | replaceCluster cluster => .string cluster.key.text
  | patchCluster key patch => patch.detail key
  | getNamespace key => .string key.text
  | listNamespaces => .null
  | patchNamespace key patch => patch.detail key
  | getChild key => .string key.text
  | createChild child => .string child.key.text
  | replaceChild child => .string child.key.text
  | deleteChild key => .string key.text

/-- What the log tells of a request to a server. -/
def ServerRequest.detail : ServerRequest → Json
  | register request => request.toJson
  | update request => request.toJson
  | delete name => .string name
  | listAttributes name => .string name
  | addAttributes name attributes => .array [.string name, AttributeType.mapToJson attributes]
  | removeAttributes name attributes => .array [.string name, Json.ofTextList attributes]

/-- The entry of a request in the log. -/
def Request.logEntry (request : Request) : Json :=
  let detail := match request with
    | store request => request.detail
    | connect cluster => .string cluster.key.text
    | server _ request => request.detail
    | close _ => .null
  .array [.string request.point, detail]

/-- The requests of a run in the order in which they were made. -/
def World.logToJson (world : World) : Json := .array (world.log.reverse.map Request.logEntry)

end ClusterOperator
