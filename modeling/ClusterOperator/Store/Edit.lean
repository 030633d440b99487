import ClusterOperator.Child.Document
import ClusterOperator.Cluster.Document
import ClusterOperator.Json.MergePatch
import ClusterOperator.Namespace.Document
import ClusterOperator.Store.Basic

/-!
# Changes from outside

What others than the operator do to the stored objects: users who create, change and delete custom
resources, the API server's own controllers that roll deployments out, and anybody who edits an
object by hand.
-/

namespace ClusterOperator

namespace Store

/-- Puts a cluster into the store; also gives the cluster as it is stored. -/
def insertCluster (cluster : Cluster) (store : Store) : Cluster × Store :=
  let store := store.advance
  let stored := { cluster with metadata := cluster.metadata.enter store }
  (stored, { store with clusters := store.clusters.insert cluster.metadata.storageKey stored })

/-- Puts a namespace into the store; also gives the namespace as it is stored. -/
def insertNamespace (ns : Namespace) (store : Store) : Namespace × Store :=
  let store := store.advance
  let stored := { ns with metadata := ns.metadata.enter store }
  (stored, { store with namespaces := store.namespaces.insert ns.metadata.storageKey stored })

/-- Takes a cluster out of the store. -/
def removeCluster (key : ObjectKey) (store : Store) : Store :=
  { store with clusters := store.clusters.erase key }

/-- Reports a cluster ready, or not ready. -/
def setReady (key : ObjectKey) (ready : Bool) (now : Instant) (store : Store) : Store :=
  let store := store.advance
  let condition : Condition :=
    { type := Condition.readyType
      status := if ready then .holds else .fails
      reason := if ready then "ServicesReady" else "ServicesNotReady"
      message := ""
      since := now }
  let change := fun cluster : Cluster =>
    let status := cluster.status.getD {}
    { cluster with
      metadata := cluster.metadata.inVersion store
      status := some { status with conditions := (Condition.set condition status.conditions).1 } }
  { store with clusters := store.clusters.modify key change }

/-- Reports a deployment as rolled out in full. -/
def rolledOut (deployment : Deployment) : Deployment :=
  let replicas := some ((deployment.spec.bind DeploymentSpec.replicas).getD 1)
  { deployment with
    status := some
      { replicas, readyReplicas := replicas
        observedGeneration := deployment.metadata.generation } }

/-- Reports all deployments in a Kubernetes namespace as rolled out in full. -/
def rollOut (ns : String) (store : Store) : Store :=
  let change := fun (key : ChildKey) (child : Child) =>
    match child with
    | .deployment deployment =>
        if key.object.ns = ns then .deployment (rolledOut deployment) else child
    | .service _ => child
  { store with children := store.children.mapValues change }

/-- Requests the deletion of a namespace, which leaves the store unless a finalizer keeps it. -/
def deleteNamespace (key : ObjectKey) (now : Instant) (store : Store) : Store :=
  let store := store.advance
  match store.namespaces.get? key with
  | none => store
  | some ns =>
      if ns.metadata.finalizerList.isEmpty then
        { store with namespaces := store.namespaces.erase key }
      else
        let metadata := { ns.metadata.inVersion store with deletionTimestamp := some now }
        { store with namespaces := store.namespaces.insert key { ns with metadata } }

/-- Puts an edited namespace in the place of the stored one. -/
def putNamespace (key : ObjectKey) (ns : Namespace) (store : Store) : Store :=
  let store := store.advance
  let edited := { ns with metadata := ns.metadata.inVersion store }
  { store with namespaces := store.namespaces.insert key edited }

/-- Puts an edited child in the place of the stored one. -/
def putChild (key : ChildKey) (child : Child) (store : Store) : Store :=
  let store := store.advance
  let edited := child.withMetadata (child.metadata.inVersion store)
  { store with children := store.children.insert key edited }

end Store

/-- What an edit changes. -/
inductive EditTarget where
  | cluster (key : ObjectKey)
  | ns (key : ObjectKey)
  | child (key : ChildKey)

/-- An edit by hand: a merge patch for the document of an object. -/
structure Edit where
  target : EditTarget
  changes : Json

namespace Edit

/-- Whether a patch for a document says anything about the time of the deletion request. -/
def setsDeletion (changes : Json) : Bool :=
  ((changes.field? "metadata").bind (·.field? "deletionTimestamp")).isSome

/-- Edited metadata. The time of a deletion request that the edit is silent about is kept as it is,
although documents round it. -/
def keepDeletion (changes : Json) (held edited : Metadata) : Metadata :=
  if setsDeletion changes then edited
  else { edited with deletionTimestamp := held.deletionTimestamp }

/-- The store after an edit, and whether there was an object to edit. There is no result where the
edited document is none of its kind. -/
def perform? (edit : Edit) (store : Store) : Option (Bool × Store) :=
  match edit.target with
  | .cluster key =>
      match store.clusters.get? key with
      | none => some (false, store)
      | some held => do
          let edited ← Cluster.ofJson? (held.toJson.mergePatch edit.changes)
          let metadata := keepDeletion edit.changes held.metadata edited.metadata
          some (true, (store.insertCluster { edited with metadata }).2)
  | .ns key =>
      match store.namespaces.get? key with
      | none => some (false, store)
      | some held => do
          let edited ← Namespace.ofJson? (held.toJson.mergePatch edit.changes)
          let metadata := keepDeletion edit.changes held.metadata edited.metadata
          some (true, store.putNamespace key { edited with metadata })
  | .child key =>
      match store.children.get? key with
      | none => some (false, store)
      | some held => do
          let edited ← Child.ofJson? key.kind (held.toJson.mergePatch edit.changes)
          let metadata := keepDeletion edit.changes held.metadata edited.metadata
          some (true, store.putChild key (edited.withMetadata metadata))

end Edit

end ClusterOperator
