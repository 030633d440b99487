import ClusterOperator.Program.Request
import ClusterOperator.Store.Basic

/-!
# Requests to the store in memory

How the store answers the requests of a pass. A write of an object that is not there, or of another
version than the one that the writer read, is refused as a conflict and changes no object.
-/

namespace ClusterOperator

/-- The stored object that a write is meant for. Where the writer names the version that it read,
the object has to be in that version. -/
def writable {α : Type} (metadata : α → Metadata) (object : String) (stored : Option α)
    (version : Option String) : Except Error α :=
  match stored with
  | none => .error (.conflict object "not found")
  | some held =>
      match version with
      | none => .ok held
      | some version =>
          if (metadata held).resourceVersion = some version then .ok held
          else
            .error <| .conflict object <|
              "resourceVersion " ++ version ++ " is stale, current is " ++
              (metadata held).resourceVersion.getD ""

/-- A stored object with the changes of a patch. -/
def Resource.withPatch {Spec Status : Type} (resource : Resource Spec Status)
    (patch : ObjectPatch Status) (store : Store) : Resource Spec Status :=
  { resource with
    metadata :=
      { resource.metadata.inVersion store with
        finalizers := patch.finalizers.or resource.metadata.finalizers }
    status := patch.status.or resource.status }

/-- A stored cluster with the spec, the labels and the annotations of another. A changed spec makes
a new generation. -/
def Cluster.replacedBy (held cluster : Cluster) (store : Store) : Cluster :=
  { held with
    spec := cluster.spec
    metadata :=
      { held.metadata.inVersion store with
        labels := cluster.metadata.labels
        annotations := cluster.metadata.annotations
        generation :=
          if held.spec = cluster.spec then held.metadata.generation
          else some held.metadata.nextGeneration } }

/-- A child that takes the place of a stored one, in a new generation. -/
def Child.replacing (child held : Child) (store : Store) : Child :=
  child.withMetadata
    { child.metadata.inVersion store with generation := some held.metadata.nextGeneration }

namespace Store

def replaceCluster (cluster : Cluster) (store : Store) : Except Error Cluster × Store :=
  let key := cluster.metadata.storageKey
  let store := store.advance
  match writable Resource.metadata key.text (store.clusters.get? key)
      cluster.metadata.resourceVersion with
  | .error error => (.error error, store)
  | .ok held =>
      let replaced := Cluster.replacedBy held cluster store
      (.ok replaced, { store with clusters := store.clusters.insert key replaced }.countWrite)

/-- Applies a patch to a cluster. -/
def patchCluster (key : ObjectKey) (patch : ObjectPatch ClusterStatus) (store : Store) :
    Except Error Unit × Store :=
  let store := store.advance
  match writable Resource.metadata key.text (store.clusters.get? key) patch.resourceVersion with
  | .error error => (.error error, store)
  | .ok held =>
      (.ok (), { store with
        clusters := store.clusters.insert key (held.withPatch patch store) }.countWrite)

/-- Applies a patch to a namespace, which leaves the store if that releases it. -/
def patchNamespace (key : ObjectKey) (patch : ObjectPatch NamespaceStatus) (store : Store) :
    Except Error Unit × Store :=
  let store := store.advance
  match writable Resource.metadata key.text (store.namespaces.get? key) patch.resourceVersion with
  | .error error => (.error error, store)
  | .ok held =>
      let patched := held.withPatch patch store
      let namespaces :=
        if patched.metadata.isReleased then store.namespaces.erase key
        else store.namespaces.insert key patched
      (.ok (), { store with namespaces }.countWrite)

/-- Creates a child; only this attempt takes no version where it fails. -/
def createChild (child : Child) (store : Store) : Except Error Child × Store :=
  if store.children.contains child.key then
    (.error (.conflict child.key.text "already exists"), store)
  else
    let store := store.advance
    let created := child.withMetadata (child.metadata.enter store)
    (.ok created, { store with children := store.children.insert child.key created }.countWrite)

def replaceChild (child : Child) (store : Store) : Except Error Child × Store :=
  let store := store.advance
  match writable Child.metadata child.key.text (store.children.get? child.key)
      child.metadata.resourceVersion with
  | .error error => (.error error, store)
  | .ok held =>
      let replaced := child.replacing held store
      (.ok replaced, { store with children := store.children.insert child.key replaced }.countWrite)

/-- Deletes a child; one that is not there needs no deleting. -/
def deleteChild (key : ChildKey) (store : Store) : Store :=
  let store := { store with deletions := store.deletions + 1 }
  if store.children.contains key then
    { store with children := store.children.erase key }.countWrite
  else store

def answer : (request : StoreRequest) → Store → Except Error request.Answer × Store
  | .getCluster key, store => (.ok (store.clusters.get? key), store)
  | .replaceCluster cluster, store => store.replaceCluster cluster
  | .patchCluster key patch, store => store.patchCluster key patch
  | .getNamespace key, store => (.ok (store.namespaces.get? key), store)
  | .listNamespaces, store => (.ok (store.namespaces.entries.map Prod.snd), store)
  | .patchNamespace key patch, store => store.patchNamespace key patch
  | .getChild key, store => (.ok (store.children.get? key), store)
  | .createChild child, store => store.createChild child
  | .replaceChild child, store => store.replaceChild child
  | .deleteChild key, store => (.ok (), store.deleteChild key)

end Store

end ClusterOperator
