import ClusterOperator.Cluster.Document
import ClusterOperator.Definition.Basic
import ClusterOperator.Namespace.Document

/-!
# The definitions of clusters and namespaces
-/

namespace ClusterOperator.Cluster

/-! ## The definition of clusters -/

open Schema

/-- The schema of the settings of one service. -/
def roleSchema (description : String) : Schema :=
  .record (unset description)
    [optional "httpPort" (.number (unset "Optional HTTP API port (frontend only)")),
      optional "membershipPort" (.number (unset "Ringpop membership port")),
      optional "port" (.number (unset "gRPC port the service listens on")),
      optional "replicas" (.number (unset "Number of replicas"))]

/-- The schema of the settings of the declared services. -/
def rolesSchema : Schema :=
  .record (unset "Per-service settings")
    [optional "frontend" (roleSchema "Frontend service"),
      optional "history" (roleSchema "History service"),
      optional "matching" (roleSchema "Matching service"),
      optional "worker" (roleSchema "Internal worker service")]

/-- The schema of the lifetimes of certificates. -/
def certificatesSchema : Schema :=
  .record (unset "Certificate lifetimes")
    [optional "clientCertificates" (.text (unset "Client certificates lifetime")),
      optional "frontendCertificate" (.text (unset "Frontend certificate lifetime")),
      optional "intermediateCAsCertificates"
        (.text (unset "Intermediate CA certificates lifetime")),
      optional "internodeCertificate" (.text (unset "Internode certificate lifetime")),
      optional "rootCACertificate" (.text (unset "Root CA certificate lifetime"))]

/-- The schema of the policy for mutual authentication. -/
def mutualTlsSchema : Schema :=
  .record (unset "Mutual TLS policy")
    [optional "certificatesDuration" certificatesSchema,
      optional "provider"
        (.text (unset "Certificate provider; only \x60cert-manager\x60 is supported")),
      optional "refreshInterval"
        (.text (unset "How often workloads reload rotated certificates"))]

/-- The schema of the choice of datastores. -/
def persistenceSchema : Schema :=
  .record
    { note "Datastore selection" with
      fallback := some (.object [("defaultStore", .string "")]) }
    [optional "defaultStore"
        (.text
          { note "Name of the datastore used for workflow state" with
            fallback := some (.string "") }),
      optional "visibilityStore"
        (.text
          (unset "Name of the datastore used for visibility (defaults to the default store)"))]

/-- The schema of the user interface. -/
def uiSchema : Schema :=
  .record (unset "Web UI deployment")
    [optional "enabled" (.truth (off "Deploy the UI")),
      optional "image" (.text (note "UI image repository")),
      optional "version" (.text (note "UI image tag"))]

/-- The schema of the tools for administrators. -/
def adminToolsSchema : Schema :=
  .record (unset "Admin tools deployment")
    [optional "enabled" (.truth (off "Deploy the admin tools pod")),
      optional "image"
        (.text (note "Admin tools image repository (tagged with the cluster version)"))]

def specSchema : Schema :=
  .record (note "Specification for a TemporalCluster")
    [optional "admintools" adminToolsSchema,
      optional "image" (.text (note "Temporal server image repository")),
      optional "mTLS" mutualTlsSchema,
      optional "persistence" persistenceSchema,
      optional "services" rolesSchema,
      optional "ui" uiSchema,
      optional "version" (.text (note "Temporal server version (image tag)"))]

/-- The schema of what is observed about one service. -/
def roleStatusSchema : Schema :=
  .record (note "Observed state of one Temporal service")
    [needed "name" (.text (note "Service name")),
      needed "ready" (.truth (note "Whether all replicas are ready")),
      needed "version" (.text (note "Version the service is running"))]

def statusSchema : Schema :=
  .record (unset "Status for a TemporalCluster")
    [optional "conditions"
        (.list (note "Conditions representing the cluster state") Condition.schema),
      optional "services" (.list (note "Per-service rollout state") roleStatusSchema),
      optional "version" (.text (unset "Temporal version currently deployed"))]

def definition : Definition where
  kind := kind
  singular := "temporalcluster"
  shortName := "tc"
  columns := [{ name := "Version", type := "string", path := ".spec.version" }, .ready, .age]
  spec := specSchema
  status := statusSchema

end ClusterOperator.Cluster

namespace ClusterOperator.Namespace

/-! ## The definition of namespaces -/

open Schema

/-- The schema of the reference to a cluster. -/
def clusterSchema : Schema :=
  .record (note "Cluster this namespace lives in")
    [needed "name" (.text (note "Name of the TemporalCluster")),
      optional "namespace"
        (.text
          (unset <| "Namespace of the TemporalCluster (defaults to the referencing object's " ++
            "namespace)"))]

def specSchema : Schema :=
  .record (note "Specification for a TemporalNamespace")
    [optional "allowDeletion"
        (.truth (off "Delete the remote namespace when this object is deleted")),
      needed "clusterRef" clusterSchema,
      optional "customSearchAttributes"
        (.map
          (note "Custom search attributes, name to type (e.g. \x60Keyword\x60, \x60Int\x60)")
          (.text {})),
      optional "data" (.map (note "Free-form namespace data") (.text {})),
      optional "description" (.text (unset "Namespace description")),
      optional "isGlobalNamespace"
        (.truth (off "Register as a global (multi-cluster) namespace")),
      optional "ownerEmail" (.text (unset "Owner contact address")),
      optional "retentionPeriod"
        (.text (unset "Workflow history retention (defaults to 72h)"))]

def statusSchema : Schema :=
  .record (unset "Status for a TemporalNamespace")
    [optional "conditions"
      (.list (note "Conditions representing the namespace state") Condition.schema)]

def definition : Definition where
  kind := kind
  singular := "temporalnamespace"
  shortName := "tns"
  columns :=
    [{ name := "Cluster", type := "string", path := ".spec.clusterRef.name" }, .ready, .age]
  spec := specSchema
  status := statusSchema

end ClusterOperator.Namespace
