import ClusterOperator.Cluster.Basic
import ClusterOperator.Condition.Document
import ClusterOperator.Object.Document

/-!
# Clusters in JSON

The document of a cluster leaves out what is unset, and also the texts of its spec that are empty.
-/

namespace ClusterOperator

/-- A member with a text, which is left out where the text is empty. -/
def textField (name text : String) : List (String × Json) :=
  if text = "" then [] else [(name, .string text)]

namespace RoleSpec

def memberNames : List String := ["replicas", "port", "membershipPort", "httpPort"]

def shape : Json.Shape :=
  .record .strict "ServiceSpec"
    [.optional "replicas" (.signed 32), .optional "port" (.signed 32),
      .optional "membershipPort" (.signed 32), .optional "httpPort" (.signed 32)]

def ofJson? (json : Json) : Option RoleSpec := do
  let members ← json.strictMembers? memberNames
  pure
    { replicas := ← Json.optional (Json.signed? 32) "replicas" members
      port := ← Json.optional (Json.signed? 32) "port" members
      membershipPort := ← Json.optional (Json.signed? 32) "membershipPort" members
      httpPort := ← Json.optional (Json.signed? 32) "httpPort" members }

def toJson (settings : RoleSpec) : Json :=
  .object <|
    Json.optionalField "replicas" .integer settings.replicas ++
    Json.optionalField "port" .integer settings.port ++
    Json.optionalField "membershipPort" .integer settings.membershipPort ++
    Json.optionalField "httpPort" .integer settings.httpPort

end RoleSpec

namespace RolesSpec

def shape : Json.Shape :=
  .record .strict "ServicesSpec"
    [.optional "frontend" RoleSpec.shape, .optional "history" RoleSpec.shape,
      .optional "matching" RoleSpec.shape, .optional "worker" RoleSpec.shape]

def ofJson? (json : Json) : Option RolesSpec := do
  let members ← json.strictMembers? (Role.all.map Role.text)
  pure
    { frontend := ← Json.optional RoleSpec.ofJson? "frontend" members
      history := ← Json.optional RoleSpec.ofJson? "history" members
      matching := ← Json.optional RoleSpec.ofJson? "matching" members
      worker := ← Json.optional RoleSpec.ofJson? "worker" members }

def toJson (roles : RolesSpec) : Json :=
  .object <|
    Json.optionalField "frontend" RoleSpec.toJson roles.frontend ++
    Json.optionalField "history" RoleSpec.toJson roles.history ++
    Json.optionalField "matching" RoleSpec.toJson roles.matching ++
    Json.optionalField "worker" RoleSpec.toJson roles.worker

end RolesSpec

namespace PersistenceSpec

def memberNames : List String := ["defaultStore", "visibilityStore"]

def shape : Json.Shape :=
  .record .strict "PersistenceSpec"
    [.defaulted "defaultStore" .text, .optional "visibilityStore" .text]

def ofJson? (json : Json) : Option PersistenceSpec := do
  let members ← json.strictMembers? memberNames
  pure
    { defaultStore := ← Json.defaulted "" Json.string? "defaultStore" members
      visibilityStore := ← Json.optional Json.string? "visibilityStore" members }

def toJson (persistence : PersistenceSpec) : Json :=
  .object <|
    ("defaultStore", .string persistence.defaultStore) ::
    Json.optionalField "visibilityStore" .string persistence.visibilityStore

end PersistenceSpec

namespace CertificateLifetimes

def memberNames : List String :=
  ["rootCACertificate", "intermediateCAsCertificates", "clientCertificates", "frontendCertificate",
    "internodeCertificate"]

def shape : Json.Shape :=
  .record .strict "CertificatesDurationSpec"
    [.optional "rootCACertificate" Duration.shape,
      .optional "intermediateCAsCertificates" Duration.shape,
      .optional "clientCertificates" Duration.shape, .optional "frontendCertificate" Duration.shape,
      .optional "internodeCertificate" Duration.shape]

def ofJson? (json : Json) : Option CertificateLifetimes := do
  let members ← json.strictMembers? memberNames
  pure
    { rootCa := ← Json.optional Duration.ofJson? "rootCACertificate" members
      intermediateCas := ← Json.optional Duration.ofJson? "intermediateCAsCertificates" members
      client := ← Json.optional Duration.ofJson? "clientCertificates" members
      frontend := ← Json.optional Duration.ofJson? "frontendCertificate" members
      internode := ← Json.optional Duration.ofJson? "internodeCertificate" members }

def toJson (lifetimes : CertificateLifetimes) : Json :=
  .object <|
    Json.optionalField "rootCACertificate" Duration.toJson lifetimes.rootCa ++
    Json.optionalField "intermediateCAsCertificates" Duration.toJson lifetimes.intermediateCas ++
    Json.optionalField "clientCertificates" Duration.toJson lifetimes.client ++
    Json.optionalField "frontendCertificate" Duration.toJson lifetimes.frontend ++
    Json.optionalField "internodeCertificate" Duration.toJson lifetimes.internode

end CertificateLifetimes

namespace MutualTlsSpec

def memberNames : List String := ["provider", "refreshInterval", "certificatesDuration"]

def shape : Json.Shape :=
  .record .strict "MTLSSpec"
    [.optional "provider" .text, .optional "refreshInterval" Duration.shape,
      .optional "certificatesDuration" CertificateLifetimes.shape]

def ofJson? (json : Json) : Option MutualTlsSpec := do
  let members ← json.strictMembers? memberNames
  pure
    { provider := ← Json.optional Json.string? "provider" members
      refreshInterval := ← Json.optional Duration.ofJson? "refreshInterval" members
      lifetimes := ← Json.optional CertificateLifetimes.ofJson? "certificatesDuration" members }

def toJson (mutualTls : MutualTlsSpec) : Json :=
  .object <|
    Json.optionalField "provider" .string mutualTls.provider ++
    Json.optionalField "refreshInterval" Duration.toJson mutualTls.refreshInterval ++
    Json.optionalField "certificatesDuration" CertificateLifetimes.toJson mutualTls.lifetimes

end MutualTlsSpec

namespace UiSpec

def memberNames : List String := ["enabled", "version", "image"]

def shape : Json.Shape :=
  .record .strict "UISpec"
    [.defaulted "enabled" .bool, .defaulted "version" .text, .defaulted "image" .text]

def ofJson? (json : Json) : Option UiSpec := do
  let members ← json.strictMembers? memberNames
  pure
    { enabled := ← Json.defaulted false Json.bool? "enabled" members
      version := ← Json.defaulted "" Json.string? "version" members
      image := ← Json.defaulted "" Json.string? "image" members }

def toJson (ui : UiSpec) : Json :=
  .object <|
    ("enabled", .bool ui.enabled) :: textField "version" ui.version ++ textField "image" ui.image

end UiSpec

namespace AdminToolsSpec

def memberNames : List String := ["enabled", "image"]

def shape : Json.Shape :=
  .record .strict "AdminToolsSpec"
    [.defaulted "enabled" .bool, .defaulted "image" .text]

def ofJson? (json : Json) : Option AdminToolsSpec := do
  let members ← json.strictMembers? memberNames
  pure
    { enabled := ← Json.defaulted false Json.bool? "enabled" members
      image := ← Json.defaulted "" Json.string? "image" members }

def toJson (tools : AdminToolsSpec) : Json :=
  .object (("enabled", .bool tools.enabled) :: textField "image" tools.image)

end AdminToolsSpec

namespace ClusterSpec

def memberNames : List String :=
  ["version", "image", "services", "persistence", "mTLS", "ui", "admintools"]

def shape : Json.Shape :=
  .record .strict "TemporalClusterSpec"
    [.defaulted "version" .text, .defaulted "image" .text, .optional "services" RolesSpec.shape,
      .defaulted "persistence" PersistenceSpec.shape, .optional "mTLS" MutualTlsSpec.shape,
      .optional "ui" UiSpec.shape, .optional "admintools" AdminToolsSpec.shape]

def ofJson? (json : Json) : Option ClusterSpec := do
  let members ← json.strictMembers? memberNames
  pure
    { version := ← Json.defaulted "" Json.string? "version" members
      image := ← Json.defaulted "" Json.string? "image" members
      services := ← Json.optional RolesSpec.ofJson? "services" members
      persistence := ← Json.defaulted {} PersistenceSpec.ofJson? "persistence" members
      mutualTls := ← Json.optional MutualTlsSpec.ofJson? "mTLS" members
      ui := ← Json.optional UiSpec.ofJson? "ui" members
      adminTools := ← Json.optional AdminToolsSpec.ofJson? "admintools" members }

def toJson (spec : ClusterSpec) : Json :=
  .object <|
    textField "version" spec.version ++
    textField "image" spec.image ++
    Json.optionalField "services" RolesSpec.toJson spec.services ++
    [("persistence", spec.persistence.toJson)] ++
    Json.optionalField "mTLS" MutualTlsSpec.toJson spec.mutualTls ++
    Json.optionalField "ui" UiSpec.toJson spec.ui ++
    Json.optionalField "admintools" AdminToolsSpec.toJson spec.adminTools

end ClusterSpec

namespace RoleStatus

def memberNames : List String := ["name", "version", "ready"]

def shape : Json.Shape :=
  .record .strict "ServiceStatus"
    [.required "name" .text, .required "version" .text, .required "ready" .bool]

def ofJson? (json : Json) : Option RoleStatus := do
  let members ← json.strictMembers? memberNames
  pure
    { name := ← Json.required Json.string? "name" members
      version := ← Json.required Json.string? "version" members
      ready := ← Json.required Json.bool? "ready" members }

def toJson (status : RoleStatus) : Json :=
  .object
    [("name", .string status.name), ("version", .string status.version),
      ("ready", .bool status.ready)]

end RoleStatus

namespace ClusterStatus

def memberNames : List String := ["conditions", "version", "services"]

def shape : Json.Shape :=
  .record .strict "TemporalClusterStatus"
    [.defaulted "conditions" (.list Condition.shape), .optional "version" .text,
      .defaulted "services" (.list RoleStatus.shape)]

def ofJson? (json : Json) : Option ClusterStatus := do
  let members ← json.strictMembers? memberNames
  pure
    { conditions := ← Json.defaulted [] (Json.listOf? Condition.ofJson?) "conditions" members
      version := ← Json.optional Json.string? "version" members
      services := ← Json.defaulted [] (Json.listOf? RoleStatus.ofJson?) "services" members }

def toJson (status : ClusterStatus) : Json :=
  .object <|
    Condition.listField status.conditions ++
    Json.optionalField "version" .string status.version ++
    if status.services = [] then []
    else [("services", .array (status.services.map RoleStatus.toJson))]

end ClusterStatus

namespace Cluster

def kind : String := "TemporalCluster"

def shape : Json.Shape := Resource.shape kind ClusterSpec.shape ClusterStatus.shape

def ofJson? (json : Json) : Option Cluster :=
  Resource.ofJson? ClusterSpec.ofJson? ClusterStatus.ofJson? json

def toJson (cluster : Cluster) : Json :=
  Resource.toJson customApiVersion kind ClusterSpec.toJson ClusterStatus.toJson cluster

end Cluster

end ClusterOperator
