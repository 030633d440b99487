import ClusterOperator.Json.Record
import ClusterOperator.Json.Time
import ClusterOperator.Object.Metadata

/-!
# Objects in JSON

A type has a `shape`, which tells what its documents look like, and is read by `ofJson?` and written
by `toJson`. What is unset is left out of a document, and what is set to nothing is written.
-/

namespace ClusterOperator

namespace OwnerReference

def shape : Json.Shape :=
  .record .lenient "OwnerReference"
    [.optional "apiVersion" .text, .optional "kind" .text, .optional "name" .text,
      .optional "uid" .text, .optional "controller" .bool, .optional "blockOwnerDeletion" .bool]

def ofJson? (json : Json) : Option OwnerReference := do
  let members ← json.lenientMembers?
  pure
    { apiVersion := ← Json.orElse "" Json.string? "apiVersion" members
      kind := ← Json.orElse "" Json.string? "kind" members
      name := ← Json.orElse "" Json.string? "name" members
      uid := ← Json.orElse "" Json.string? "uid" members
      controller := ← Json.optional Json.bool? "controller" members
      blockOwnerDeletion := ← Json.optional Json.bool? "blockOwnerDeletion" members }

def toJson (owner : OwnerReference) : Json :=
  .object <|
    [("apiVersion", .string owner.apiVersion), ("kind", .string owner.kind),
      ("name", .string owner.name), ("uid", .string owner.uid)] ++
    Json.optionalField "controller" .bool owner.controller ++
    Json.optionalField "blockOwnerDeletion" .bool owner.blockOwnerDeletion

end OwnerReference

namespace Metadata

/-- The members that are kept as they are. -/
def keptNames : List String :=
  ["creationTimestamp", "deletionGracePeriodSeconds", "managedFields", "selfLink"]

def shape : Json.Shape :=
  .record .lenient "ObjectMeta" <|
    [.optional "name" .text, .optional "generateName" .text, .optional "namespace" .text,
      .optional "uid" .text, .optional "resourceVersion" .text, .optional "generation" (.signed 64),
      .optional "labels" (.map .text), .optional "annotations" (.map .text),
      .optional "finalizers" (.list .text),
      .optional "ownerReferences" (.list OwnerReference.shape),
      .optional "deletionTimestamp" Instant.shape] ++
    Json.Member.kept keptNames

def ofJson? (json : Json) : Option Metadata := do
  let members ← json.lenientMembers?
  pure
    { name := ← Json.optional Json.string? "name" members
      generateName := ← Json.optional Json.string? "generateName" members
      ns := ← Json.optional Json.string? "namespace" members
      uid := ← Json.optional Json.string? "uid" members
      resourceVersion := ← Json.optional Json.string? "resourceVersion" members
      generation := ← Json.optional (Json.signed? 64) "generation" members
      labels := ← Json.optional (Json.mapOf? Json.string?) "labels" members
      annotations := ← Json.optional (Json.mapOf? Json.string?) "annotations" members
      finalizers := ← Json.optional (Json.listOf? Json.string?) "finalizers" members
      ownerReferences :=
        ← Json.optional (Json.listOf? OwnerReference.ofJson?) "ownerReferences" members
      deletionTimestamp := ← Json.optional Instant.ofJson? "deletionTimestamp" members
      rest := Json.kept keptNames members }

def toJson (metadata : Metadata) : Json :=
  .object <|
    Json.optionalField "name" .string metadata.name ++
    Json.optionalField "generateName" .string metadata.generateName ++
    Json.optionalField "namespace" .string metadata.ns ++
    Json.optionalField "uid" .string metadata.uid ++
    Json.optionalField "resourceVersion" .string metadata.resourceVersion ++
    Json.optionalField "generation" .integer metadata.generation ++
    Json.optionalField "labels" Json.ofTexts metadata.labels ++
    Json.optionalField "annotations" Json.ofTexts metadata.annotations ++
    Json.optionalField "finalizers" Json.ofTextList metadata.finalizers ++
    Json.optionalField "ownerReferences" (fun owners => .array (owners.map OwnerReference.toJson))
      metadata.ownerReferences ++
    Json.optionalField "deletionTimestamp" Instant.toSecondsJson metadata.deletionTimestamp ++
    Json.kept keptNames metadata.rest

end Metadata

namespace Resource

variable {Spec Status : Type}

/-- The members of a custom resource. What the object is needs no member: it is known from where the
document comes from. -/
def memberNames : List String := ["metadata", "spec", "status"]

/-- The shape of a custom resource of a kind. -/
def shape (kind : String) (spec status : Json.Shape) : Json.Shape :=
  .record .strict kind
    [.required "metadata" Metadata.shape, .required "spec" spec,
      ⟨"status", .optional, .optional status⟩]

/-- Reads a custom resource. -/
def ofJson? (readSpec : Json → Option Spec) (readStatus : Json → Option Status) (json : Json) :
    Option (Resource Spec Status) := do
  let members ← json.strictMembers? memberNames
  guard (json.array?.isNone ∨ members.length = memberNames.length)
  pure
    { metadata := ← Json.required Metadata.ofJson? "metadata" members
      spec := ← Json.required readSpec "spec" members
      status := ← Json.optional readStatus "status" members }

/-- A custom resource as a document. -/
def toJson (apiVersion kind : String) (writeSpec : Spec → Json) (writeStatus : Status → Json)
    (resource : Resource Spec Status) : Json :=
  .object <|
    [("apiVersion", .string apiVersion), ("kind", .string kind),
      ("metadata", resource.metadata.toJson), ("spec", writeSpec resource.spec)] ++
    Json.optionalField "status" writeStatus resource.status

end Resource

/-- The group and version of the custom resources. -/
def customApiVersion : String := "temporal.io/v1beta1"

end ClusterOperator
