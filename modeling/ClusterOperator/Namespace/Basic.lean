import ClusterOperator.Cluster.Basic
import ClusterOperator.Condition.Basic
import ClusterOperator.Duration.Basic
import ClusterOperator.Object.Metadata

/-!
# Namespaces

The custom resource of a namespace, and what its cluster's server is told about it.
-/

namespace ClusterOperator

/-! ## Namespaces

The custom resource that describes a namespace inside a cluster's server. Its deletion finalizer
keeps the object until the server's namespace is gone.
-/

/-- A reference to a cluster. -/
structure ClusterReference where
  name : String
  ns : Option String := none
  deriving DecidableEq

/-- The key of the cluster, given where the referring object lives: a Kubernetes namespace that is
unset or empty is the object's own. -/
def ClusterReference.resolve (reference : ClusterReference) (own : String) : ObjectKey :=
  let ns := reference.ns.getD ""
  ⟨if ns = "" then own else ns, reference.name⟩

/-- What a user asks of a namespace. -/
structure NamespaceSpec where
  cluster : ClusterReference
  description : Option String := none
  ownerEmail : Option String := none
  retention : Option Duration := none
  data : StringMap String := ∅
  isGlobal : Bool := false
  allowDeletion : Bool := false
  searchAttributes : StringMap String := ∅
  deriving DecidableEq

/-- What is observed about a namespace. -/
structure NamespaceStatus where
  conditions : List Condition := []
  deriving DecidableEq

instance : HasConditions NamespaceStatus where
  initial := {}
  conditions := NamespaceStatus.conditions
  withConditions _ conditions := { conditions }

/-- A namespace inside a cluster's server. -/
abbrev Namespace := Resource NamespaceSpec NamespaceStatus

namespace Namespace

/-- The finalizer that keeps an object until the server's namespace is deleted. -/
def deletionFinalizer : String := "temporal.io/deletion-finalizer"

/-- How long the server keeps the history of workflows, where the spec does not say. -/
def defaultRetention : Duration := .ofHours 72

/-- The key of the cluster that the namespace belongs to. -/
def clusterKey (ns : Namespace) : ObjectKey := ns.spec.cluster.resolve ns.ns

/-- How long the server is to keep the history of workflows. -/
def retention (ns : Namespace) : Duration := ns.spec.retention.getD defaultRetention

/-- The object with other finalizers. -/
def withFinalizers (ns : Namespace) (finalizers : List String) : Namespace :=
  { ns with metadata := { ns.metadata with finalizers := some finalizers } }

/-- Whether the deletion finalizer is there. -/
def hasFinalizer (ns : Namespace) : Bool :=
  ns.metadata.finalizerList.any fun finalizer => finalizer = deletionFinalizer

/-- Adds the deletion finalizer at the end, unless it is there. -/
def addFinalizer (ns : Namespace) : Namespace :=
  if ns.hasFinalizer then ns
  else ns.withFinalizers (ns.metadata.finalizerList ++ [deletionFinalizer])

/-- Takes the deletion finalizer off; unset finalizers become an empty list. -/
def removeFinalizer (ns : Namespace) : Namespace :=
  ns.withFinalizers <|
    ns.metadata.finalizerList.filter fun finalizer => finalizer ≠ deletionFinalizer

end Namespace

/-! ## Namespace requests

What a server is told when a namespace is registered or updated.
-/

/-- The settings of a namespace, as a server takes them. -/
structure NamespaceRequest where
  name : String
  description : Option String
  ownerEmail : Option String
  retention : Duration
  data : StringMap String
  isGlobal : Bool
  activeCluster : String
  deriving DecidableEq

/-- The request for a namespace on a cluster. -/
def NamespaceRequest.of (cluster : Cluster) (ns : Namespace) : NamespaceRequest where
  name := ns.name
  description := ns.spec.description
  ownerEmail := ns.spec.ownerEmail
  retention := ns.retention
  data := ns.spec.data
  isGlobal := ns.spec.isGlobal
  activeCluster := cluster.name

end ClusterOperator
