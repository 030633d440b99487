import ClusterOperator.Proofs.Store.Version

/-!
# Stores that are reached

The stores that changes lead to, starting from nothing. In each of them versions tell the children
apart, and a cluster stands under its own key.
-/

namespace ClusterOperator.Store

/-- A store that changes lead to. -/
inductive Reached : Store → Prop
  | start : Reached {}
  | change {store later : Store} (reached : Reached store) (change : Change store later) :
      Reached later

theorem Reached.versioned {store : Store} (reached : Reached store) : store.Versioned := by
  induction reached with
  | start => exact versioned_empty
  | change reached change ih => exact change.progress.versioned ih

/-- What holds of the metadata of a cluster under a key where the cluster enters the store, and as
long as the cluster stays what it is. -/
structure Lasting (holds : ObjectKey → Metadata → Prop) : Prop where
  enters : ∀ (metadata : Metadata) (store : Store),
    holds metadata.storageKey (metadata.enter store)
  stays : ∀ (key : ObjectKey) (held later : Metadata), later.name = held.name →
    later.ns = held.ns → later.uid = held.uid → holds key held → holds key later

/-- The same holds of all clusters. -/
def AllClusters (holds : ObjectKey → Metadata → Prop) (clusters : SortedMap ObjectKey Cluster) :
    Prop :=
  ∀ key cluster, clusters.get? key = some cluster → holds key cluster.metadata

section Lasting

variable {holds : ObjectKey → Metadata → Prop} {clusters : SortedMap ObjectKey Cluster}
  {store later : Store}

theorem AllClusters.insert {key : ObjectKey} {cluster : Cluster} (all : AllClusters holds clusters)
    (own : holds key cluster.metadata) : AllClusters holds (clusters.insert key cluster) := by
  intro other held there
  rw [SortedMap.get?_insert] at there
  split at there
  · rename_i same
    cases there
    exact same ▸ own
  · exact all other held there

theorem AllClusters.erase (all : AllClusters holds clusters) (key : ObjectKey) :
    AllClusters holds (clusters.erase key) := by
  intro other held there
  rw [SortedMap.get?_erase] at there
  split at there
  · cases there
  · exact all other held there

theorem allClusters_replaceCluster (lasting : Lasting holds) (cluster : Cluster)
    (all : AllClusters holds store.clusters) :
    AllClusters holds (store.replaceCluster cluster).2.clusters := by
  dsimp only [replaceCluster]
  split
  · exact all
  · rename_i held accepted
    have there := all _ held (writable_eq_ok accepted).1
    exact all.insert (lasting.stays _ held.metadata _ rfl rfl rfl there)

theorem allClusters_patchCluster (lasting : Lasting holds) (key : ObjectKey)
    (patch : ObjectPatch ClusterStatus) (all : AllClusters holds store.clusters) :
    AllClusters holds (store.patchCluster key patch).2.clusters := by
  dsimp only [patchCluster]
  split
  · exact all
  · rename_i held accepted
    have there := all key held (writable_eq_ok accepted).1
    exact all.insert (lasting.stays _ held.metadata _ rfl rfl rfl there)

theorem allClusters_answer (lasting : Lasting holds) (request : StoreRequest)
    (all : AllClusters holds store.clusters) :
    AllClusters holds (store.answer request).2.clusters := by
  cases request with
  | replaceCluster cluster => exact allClusters_replaceCluster lasting cluster all
  | patchCluster key patch => exact allClusters_patchCluster lasting key patch all
  | patchNamespace key patch =>
      dsimp only [answer, patchNamespace]
      split <;> exact all
  | createChild child =>
      dsimp only [answer, createChild]
      split <;> exact all
  | replaceChild child =>
      dsimp only [answer, replaceChild]
      split <;> exact all
  | deleteChild key =>
      dsimp only [answer, deleteChild]
      split <;> exact all
  | _ => exact all

theorem Change.allClusters (lasting : Lasting holds) (change : Change store later)
    (all : AllClusters holds store.clusters) : AllClusters holds later.clusters := by
  cases change with
  | insertCluster cluster => exact all.insert (lasting.enters cluster.metadata store.advance)
  | removeCluster key => exact all.erase key
  | setReady key ready now =>
      dsimp only [Store.setReady, SortedMap.modify]
      split
      · exact all
      · rename_i held there
        exact all.insert (lasting.stays _ held.metadata _ rfl rfl rfl (all key held there))
  | deleteNamespace key now =>
      dsimp only [Store.deleteNamespace]
      split
      · exact all
      · split <;> exact all
  | request request => exact allClusters_answer lasting request all
  | _ => exact all

theorem Reached.allClusters (lasting : Lasting holds) (reached : Reached store) :
    AllClusters holds store.clusters := by
  induction reached with
  | start =>
      intro key cluster there
      cases there
  | change reached change ih => exact change.allClusters lasting ih

end Lasting

/-- Every cluster stands under its own key. -/
def Filed (clusters : SortedMap ObjectKey Cluster) : Prop :=
  ∀ key cluster, clusters.get? key = some cluster → cluster.metadata.storageKey = key

theorem Reached.filed {store : Store} (reached : Reached store) : Filed store.clusters := by
  have lasting : Lasting fun key metadata => metadata.storageKey = key :=
    { enters := fun _ _ => rfl
      stays := by
        intro key held later name ns _ own
        simp [Metadata.storageKey, name, ns, ← own] }
  exact reached.allClusters lasting

/-- Every cluster has an identity, its own one or that of its key. -/
theorem Reached.isSome_uid {store : Store} (reached : Reached store) {key : ObjectKey}
    {cluster : Cluster} (there : store.clusters.get? key = some cluster) :
    cluster.metadata.uid.isSome := by
  have lasting : Lasting fun _ metadata => metadata.uid.isSome :=
    { enters := fun _ _ => rfl
      stays := by
        intro key held later _ _ uid known
        simpa [uid] using known }
  exact reached.allClusters lasting key cluster there

end ClusterOperator.Store
