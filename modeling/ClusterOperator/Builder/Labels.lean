import ClusterOperator.Cluster.Basic
import ClusterOperator.Error

/-!
# Labels, annotations and owners of child objects

The keys that belong to the operator are always written anew; keys that somebody else put on an
object stay. The one controller of a child is its cluster.
-/

namespace ClusterOperator

/-- The parts of a cluster that have objects of their own. -/
inductive Component where
  | role (role : Role)
  | ui
  | adminTools
  deriving DecidableEq

/-- The name of a component. -/
def Component.text : Component → String
  | .role which => which.text
  | ui => "ui"
  | adminTools => "admintools"

namespace Label

def name : String := "app.kubernetes.io/name"

def instanceName : String := "app.kubernetes.io/instance"

def component : String := "app.kubernetes.io/component"

def version : String := "app.kubernetes.io/version"

def managedBy : String := "app.kubernetes.io/managed-by"

def partOf : String := "app.kubernetes.io/part-of"

/-- Marks the services by which the members of a service find one another. -/
def headless : String := "temporal.io/headless"

end Label

/-- The annotation that says which cluster an object belongs to. -/
def clusterAnnotation : String := "temporal.io/cluster"

/-- The annotation in which a tool keeps the last manifest of an object; it is no child's business.
-/
def lastAppliedAnnotation : String := "kubectl.kubernetes.io/last-applied-configuration"

/-- Finds the first item that fits and changes it; where none fits, a new item goes to the end. -/
def upsertFirst {α : Type} (fits : α → Bool) (change : α → α) (fresh : α) : List α → List α
  | [] => [fresh]
  | item :: rest =>
      if fits item then change item :: rest else item :: upsertFirst fits change fresh rest

namespace Cluster

variable (cluster : Cluster)

/-- The labels by which the pods of a component are found. They never change, because a deployment
cannot change its selector. -/
def selector (component : String) : StringMap String :=
  .ofList
    [(Label.name, "temporal"), (Label.instanceName, cluster.name), (Label.component, component)]

/-- The labels of the objects of a component: the cluster's own ones and, over them, the standard
ones. -/
def childLabels (component version : String) : StringMap String :=
  (cluster.metadata.labels.getD ∅).overlay <| .ofList
    [(Label.name, "temporal"), (Label.instanceName, cluster.name), (Label.component, component),
      (Label.version, version), (Label.managedBy, "temporal-operator"),
      (Label.partOf, "temporal")]

/-- The annotations of all objects of a cluster: the cluster's own ones, but for the last manifest,
and its name. -/
def childAnnotations : StringMap String :=
  ((cluster.metadata.annotations.getD ∅).filter fun key _ => key ≠ lastAppliedAnnotation).insert
    clusterAnnotation cluster.name

/-- The reference to the cluster as a controller. There is none before the cluster has a name and an
identity. -/
def controllerReference? : Option OwnerReference := do
  let name ← cluster.metadata.name
  let uid ← cluster.metadata.uid
  pure
    { apiVersion := "temporal.io/v1beta1", kind := "TemporalCluster", name, uid,
      controller := some true }

/-- Makes a cluster the controller of an object. A reference to the same cluster is replaced, other
owners stay, and an object with another controller is refused. -/
def control (metadata : Metadata) : Except Error Metadata :=
  match cluster.controllerReference? with
  | none =>
      .error (.builder metadata.storageKey.text
        ("owner " ++ cluster.key.text ++ " has no uid yet"))
  | some owner =>
      let owners := metadata.ownerReferences.getD []
      match owners.find? fun other => other.controller = some true && other.uid ≠ owner.uid with
      | some other =>
          .error (.builder metadata.storageKey.text
            ("already controlled by " ++ other.kind ++ " " ++ other.name))
      | none =>
          .ok { metadata with
            ownerReferences :=
              some <|
                upsertFirst (fun other => other.uid = owner.uid) (fun _ => owner) owner owners }

end Cluster

/-- The labels that mark a headless service. -/
def headlessLabels : StringMap String := .ofList [(Label.headless, "true")]

/-- The observed labels or annotations of an object with the given ones over them. -/
def mergeOver (observed : Option (StringMap String)) (overlays : List (StringMap String)) :
    StringMap String :=
  overlays.foldl SortedMap.overlay (observed.getD ∅)

end ClusterOperator
