import ClusterOperator.Pass.Outcome
import ClusterOperator.Proofs.Store.Change

/-!
# Patches

A pass writes the difference between the object that it read and the one that it leaves. Where the
stored object is the one that was read, it gets the finalizers that the pass leaves. A namespace
goes when its deletion was requested and there are no finalizers left, or none from the start.
-/

namespace ClusterOperator

namespace Resource

variable {Spec Status : Type}

/-- The outcome of a pass is recorded in the status. -/
@[simp]
theorem metadata_record [HasConditions Status] (now : Instant) (result : Except Error Outcome)
    (resource : Resource Spec Status) :
    (resource.record now result).metadata = resource.metadata := by
  unfold record
  split <;> rfl

/-- A patch for the difference to another object gives the finalizers of that. -/
@[simp]
theorem finalizerList_withPatch_between [DecidableEq Status] (held after : Resource Spec Status)
    (store : Store) :
    (held.withPatch (.between held after) store).metadata.finalizerList =
      after.metadata.finalizerList := by
  dsimp only [withPatch, ObjectPatch.between, Metadata.inVersion]
  split
  · rename_i same
    exact same.symm
  · rfl

end Resource

/-- What is stored in the place of a namespace once a patch is applied to it. -/
def Namespace.patched (held : Namespace) (patch : ObjectPatch NamespaceStatus) (writer : Store) :
    Option Namespace :=
  if (held.withPatch patch writer).metadata.isReleased then none
  else some (held.withPatch patch writer)

namespace Store

/-- Requests other than patches leave all namespaces as they are. -/
theorem namespaces_answer {request : StoreRequest} (store : Store)
    (other : ∀ key patch, request ≠ .patchNamespace key patch) :
    (store.answer request).2.namespaces = store.namespaces := by
  cases request with
  | patchNamespace key patch => exact absurd rfl (other key patch)
  | getCluster key => rfl
  | getNamespace key => rfl
  | listNamespaces => rfl
  | getChild key => rfl
  | replaceCluster cluster =>
      dsimp only [answer, replaceCluster]
      split <;> rfl
  | patchCluster key patch =>
      dsimp only [answer, patchCluster]
      split <;> rfl
  | createChild child =>
      dsimp only [answer, createChild]
      split <;> rfl
  | replaceChild child =>
      dsimp only [answer, replaceChild]
      split <;> rfl
  | deleteChild key =>
      dsimp only [answer, deleteChild]
      split <;> rfl

variable {store : Store} {key : ObjectKey} {held : Namespace} {patch : ObjectPatch NamespaceStatus}

/-- A patch is about the object under its key only. -/
theorem get?_patchNamespace_of_ne {other : ObjectKey} (ne : key ≠ other) :
    (store.patchNamespace key patch).2.namespaces.get? other = store.namespaces.get? other := by
  dsimp only [patchNamespace]
  split
  · rfl
  · dsimp only [countWrite]
    split
    · rw [SortedMap.get?_erase, if_neg ne]
      rfl
    · rw [SortedMap.get?_insert, if_neg ne]
      rfl

theorem patchNamespace_of_writable
    (accepted : writable Resource.metadata key.text (store.namespaces.get? key)
      patch.resourceVersion = .ok held) :
    (store.patchNamespace key patch).1 = .ok () ∧
      (store.patchNamespace key patch).2.namespaces.get? key =
        held.patched patch store.advance := by
  have same : store.advance.namespaces = store.namespaces := rfl
  dsimp only [patchNamespace]
  rw [same, accepted]
  refine ⟨rfl, ?_⟩
  dsimp only [countWrite, Namespace.patched]
  split
  · rw [SortedMap.get?_erase, if_pos rfl]
  · rw [SortedMap.get?_insert_self]

/-- A patch is applied to the stored object if that is of the version that the patch is bound to. -/
theorem get?_patchNamespace (store : Store) (key : ObjectKey)
    (patch : ObjectPatch NamespaceStatus) :
    (store.patchNamespace key patch).2.namespaces.get? key = store.namespaces.get? key ∨
      ∃ held, store.namespaces.get? key = some held ∧
        (patch.resourceVersion = none ∨ held.metadata.resourceVersion = patch.resourceVersion) ∧
        (store.patchNamespace key patch).2.namespaces.get? key =
          held.patched patch store.advance := by
  cases accepted : writable Resource.metadata key.text (store.namespaces.get? key)
      patch.resourceVersion with
  | error error =>
      have same : store.advance.namespaces = store.namespaces := rfl
      left
      dsimp only [patchNamespace]
      rw [same, accepted]
      rfl
  | ok held =>
      rcases writable_eq_ok accepted with ⟨there, current⟩
      exact .inr ⟨held, there, current, (patchNamespace_of_writable accepted).2⟩

/-- A patch that is bound to the version of the stored object is applied. -/
theorem patchNamespace_of_current (there : store.namespaces.get? key = some held)
    (bound : patch.resourceVersion = held.metadata.resourceVersion) :
    (store.patchNamespace key patch).1 = .ok () ∧
      (store.patchNamespace key patch).2.namespaces.get? key =
        held.patched patch store.advance := by
  refine patchNamespace_of_writable ?_
  rw [there, bound]
  exact writable_of_current Resource.metadata key.text held

/-- A patch of a namespace is no matter of the clusters. -/
theorem clusters_patchNamespace (store : Store) (key : ObjectKey)
    (patch : ObjectPatch NamespaceStatus) :
    (store.patchNamespace key patch).2.clusters = store.clusters := by
  dsimp only [patchNamespace]
  split <;> rfl

/-- A deletion request leaves an object with finalizers in the store, and takes out one without. -/
theorem get?_deleteNamespace (there : store.namespaces.get? key = some held) (now : Instant) :
    (held.metadata.finalizerList = [] →
        (store.deleteNamespace key now).namespaces.get? key = none) ∧
      (held.metadata.finalizerList ≠ [] →
        ∃ later, (store.deleteNamespace key now).namespaces.get? key = some later) := by
  have same : store.advance.namespaces = store.namespaces := rfl
  dsimp only [deleteNamespace]
  rw [same, there]
  dsimp only
  cases held.metadata.finalizerList with
  | nil =>
      refine ⟨fun _ => ?_, fun some => absurd rfl some⟩
      exact (SortedMap.get?_erase _ _ _).trans (if_pos rfl)
  | cons finalizer rest =>
      refine ⟨nofun, fun _ => ⟨_, SortedMap.get?_insert_self _ _ _⟩⟩

variable {cluster : Cluster}

/-- A patch of a cluster that is bound to the version of the stored one is applied. -/
theorem patchCluster_of_current {patch : ObjectPatch ClusterStatus}
    (there : store.clusters.get? key = some cluster)
    (bound : patch.resourceVersion = cluster.metadata.resourceVersion) :
    (store.patchCluster key patch).1 = .ok () ∧
      (store.patchCluster key patch).2.children = store.children ∧
      (store.patchCluster key patch).2.clusters.get? key =
        some (cluster.withPatch patch store.advance) := by
  have same : store.advance.clusters = store.clusters := rfl
  dsimp only [patchCluster]
  rw [same, there, bound, writable_of_current Resource.metadata]
  exact ⟨rfl, rfl, SortedMap.get?_insert_self _ _ _⟩

/-- A replacement of a cluster that is bound to the version of the stored one is stored. -/
theorem replaceCluster_of_current {replacement : Cluster}
    (there : store.clusters.get? replacement.metadata.storageKey = some cluster)
    (bound : replacement.metadata.resourceVersion = cluster.metadata.resourceVersion) :
    let replaced := cluster.replacedBy replacement store.advance
    store.replaceCluster replacement =
      (.ok replaced,
        { store.advance with
          clusters := store.clusters.insert replacement.metadata.storageKey replaced
          writes := store.writes + 1 }) := by
  have same : store.advance.clusters = store.clusters := rfl
  dsimp only [replaceCluster]
  rw [same, there, bound, writable_of_current Resource.metadata]
  rfl

end Store

end ClusterOperator
