import ClusterOperator.Condition.Document
import ClusterOperator.Namespace.Basic
import ClusterOperator.Object.Document

/-!
# Namespaces in JSON
-/

namespace ClusterOperator

/-- A member with a map of texts, which is left out where the map is empty. -/
def textsField (name : String) (texts : StringMap String) : List (String × Json) :=
  if texts.isEmpty then [] else [(name, Json.ofTexts texts)]

namespace ClusterReference

def memberNames : List String := ["name", "namespace"]

def shape : Json.Shape :=
  .record .strict "ClusterReference"
    [.required "name" .text, .optional "namespace" .text]

def ofJson? (json : Json) : Option ClusterReference := do
  let members ← json.strictMembers? memberNames
  pure
    { name := ← Json.required Json.string? "name" members
      ns := ← Json.optional Json.string? "namespace" members }

def toJson (reference : ClusterReference) : Json :=
  .object (("name", .string reference.name) ::
    Json.optionalField "namespace" .string reference.ns)

end ClusterReference

namespace NamespaceSpec

def memberNames : List String :=
  ["clusterRef", "description", "ownerEmail", "retentionPeriod", "data", "isGlobalNamespace",
    "allowDeletion", "customSearchAttributes"]

def shape : Json.Shape :=
  .record .strict "TemporalNamespaceSpec"
    [.required "clusterRef" ClusterReference.shape, .optional "description" .text,
      .optional "ownerEmail" .text, .optional "retentionPeriod" Duration.shape,
      .defaulted "data" (.map .text), .defaulted "isGlobalNamespace" .bool,
      .defaulted "allowDeletion" .bool, .defaulted "customSearchAttributes" (.map .text)]

def ofJson? (json : Json) : Option NamespaceSpec := do
  let members ← json.strictMembers? memberNames
  pure
    { cluster := ← Json.required ClusterReference.ofJson? "clusterRef" members
      description := ← Json.optional Json.string? "description" members
      ownerEmail := ← Json.optional Json.string? "ownerEmail" members
      retention := ← Json.optional Duration.ofJson? "retentionPeriod" members
      data := ← Json.defaulted ∅ (Json.mapOf? Json.string?) "data" members
      isGlobal := ← Json.defaulted false Json.bool? "isGlobalNamespace" members
      allowDeletion := ← Json.defaulted false Json.bool? "allowDeletion" members
      searchAttributes :=
        ← Json.defaulted ∅ (Json.mapOf? Json.string?) "customSearchAttributes" members }

def toJson (spec : NamespaceSpec) : Json :=
  .object <|
    [("clusterRef", spec.cluster.toJson)] ++
    Json.optionalField "description" .string spec.description ++
    Json.optionalField "ownerEmail" .string spec.ownerEmail ++
    Json.optionalField "retentionPeriod" Duration.toJson spec.retention ++
    textsField "data" spec.data ++
    [("isGlobalNamespace", .bool spec.isGlobal), ("allowDeletion", .bool spec.allowDeletion)] ++
    textsField "customSearchAttributes" spec.searchAttributes

end NamespaceSpec

namespace NamespaceStatus

def memberNames : List String := ["conditions"]

def shape : Json.Shape :=
  .record .strict "TemporalNamespaceStatus"
    [.defaulted "conditions" (.list Condition.shape)]

def ofJson? (json : Json) : Option NamespaceStatus := do
  let members ← json.strictMembers? memberNames
  pure { conditions := ← Json.defaulted [] (Json.listOf? Condition.ofJson?) "conditions" members }

def toJson (status : NamespaceStatus) : Json := .object (Condition.listField status.conditions)

end NamespaceStatus

namespace Namespace

def kind : String := "TemporalNamespace"

def shape : Json.Shape := Resource.shape kind NamespaceSpec.shape NamespaceStatus.shape

def ofJson? (json : Json) : Option Namespace :=
  Resource.ofJson? NamespaceSpec.ofJson? NamespaceStatus.ofJson? json

def toJson (ns : Namespace) : Json :=
  Resource.toJson customApiVersion kind NamespaceSpec.toJson NamespaceStatus.toJson ns

end Namespace

/-- The members of a request, but for the retention, which every operation writes in its own way. -/
def NamespaceRequest.fields (request : NamespaceRequest) : List (String × Json) :=
  [("namespace", .string request.name)] ++
  Json.optionalField "description" .string request.description ++
  Json.optionalField "ownerEmail" .string request.ownerEmail ++
  textsField "data" request.data ++
  [("isGlobalNamespace", .bool request.isGlobal),
    ("activeClusterName", .string request.activeCluster)]

end ClusterOperator
