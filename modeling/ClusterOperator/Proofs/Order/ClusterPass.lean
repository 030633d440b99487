import ClusterOperator.Proofs.Cluster.Requests
import ClusterOperator.Proofs.Order.Children
import ClusterOperator.Proofs.Order.Closing
import ClusterOperator.Proofs.Program.Notes

/-!
# The footprint of cluster passes

A pass over a cluster reads and writes nothing but the cluster itself and the children that its
builders name.
-/

namespace ClusterOperator

open Program

variable {ρ α : Type} {backend : Backend ρ}

/-! ### Passes and the store -/

/-- A request about a cluster or a child is answered by the store, and leaves the namespaces
alone. -/
theorem Backend.call_of_concerns {request : Request} (concerns : Cluster.Concerns request)
    (replies : Replies) (realm : Realm ρ) :
    let left := realm.store.reply replies request
    backend.call request realm = (left.1, { realm with store := left.2 }) ∧
      left.2.namespaces = realm.store.namespaces := by
  cases request with
  | store request =>
      refine ⟨rfl, realm.store.namespaces_answer ?_⟩
      rintro key patch rfl
      exact concerns
  | connect other => exact concerns.elim
  | server other request => exact concerns.elim
  | close other => exact concerns.elim

/-- What asks about clusters and children only, and writes nothing down, comes to the same as alone
with the store, and leaves the namespaces alone. -/
theorem Program.run_of_concerns {program : Program α} {history : History}
    {fits : History → α → Prop}
    (only : Keeps (fun _ => Cluster.Concerns) fits history program)
    (silent : Notes (fun _ => False) program) (replies : Replies) (realm : Realm ρ) :
    let left := program.run (Store.alone replies) realm.store
    program.run backend.environment realm = (left.1, { realm with store := left.2 }) ∧
      left.2.namespaces = realm.store.namespaces := by
  induction program generalizing history realm with
  | done value => exact ⟨rfl, rfl⟩
  | note entry rest ih => exact silent.1.elim
  | call request next ih =>
      rcases backend.call_of_concerns only.1 replies realm with ⟨answers, stays⟩
      change (next (backend.call request realm).1).run backend.environment
        (backend.call request realm).2 = _ ∧ _
      rw [answers]
      rcases ih _ (only.2 _) (silent _) _ with ⟨runs, namespaces⟩
      exact ⟨runs, namespaces.trans stays⟩
  | timed request cut next cutIh nextIh =>
      rcases backend.call_of_concerns only.1 replies realm with ⟨answers, stays⟩
      change (next (backend.call request realm).1).run backend.environment
        (backend.call request realm).2 = _ ∧ _
      rw [answers]
      rcases nextIh _ (only.2.2 _) (silent.2 _) _ with ⟨runs, namespaces⟩
      exact ⟨runs, namespaces.trans stays⟩

theorem Program.run_clusterBody_of_alone (backend : Backend ρ) (settings : Settings)
    (now : Instant) (key : ObjectKey) (cluster : Cluster) (replies : Replies) (realm : Realm ρ) :
    let left := (clusterBody settings now key cluster).run (Store.alone replies) realm.store
    (clusterBody settings now key cluster).run backend.environment realm =
        (left.1, { realm with store := left.2 }) ∧
      left.2.namespaces = realm.store.namespaces :=
  run_of_concerns
    ((keeps_clusterBody settings now key cluster).mono (fun _ _ asks => asks.concerns)
      fun _ _ fits => fits)
    (notes_clusterBody settings now key cluster) replies realm

/-! ### What is written -/

namespace Cluster

variable {cluster : Cluster}

/-- Versions say nothing about whether a service is ready. -/
theorem roleStatuses_unversioned (cluster : Cluster) (children : List Child) :
    cluster.roleStatuses (children.map Child.unversioned) = cluster.roleStatuses children := by
  let unversioned (deployment : Deployment) : Deployment :=
    { deployment with metadata := { deployment.metadata with resourceVersion := none } }
  have deployments : (children.map Child.unversioned).filterMap Child.deployment? =
      (children.filterMap Child.deployment?).map unversioned := by
    rw [List.filterMap_map, List.map_filterMap]
    congr 1
    funext child
    cases child <;> rfl
  unfold roleStatuses
  rw [deployments]
  refine List.map_congr_left fun role _ => ?_
  dsimp only
  rw [List.find?_map, Option.any_map]
  rfl

/-- What is concluded of the children does not depend on their versions. -/
theorem concluded_congr {result other : Except Error (List Child)} (now : Instant)
    (same : result.map (List.map Child.unversioned) = other.map (List.map Child.unversioned)) :
    cluster.concluded now result = cluster.concluded now other := by
  cases result with
  | error error =>
      cases other with
      | error error =>
          cases same
          rfl
      | ok children => cases same
  | ok children =>
      cases other with
      | error error => cases same
      | ok others =>
          have equal : children.map Child.unversioned = others.map Child.unversioned :=
            Except.ok.inj same
          dsimp only [concluded]
          rw [← roleStatuses_unversioned cluster children, equal, roleStatuses_unversioned]

theorem steady_recorded (cluster : Cluster) (result : Except Error (List Child)) :
    cluster.Steady fun now => cluster.recorded now result := by
  have metadata (now later : Instant) :
      (cluster.recorded now result).metadata = (cluster.recorded later result).metadata := by
    rw [metadata_recorded, metadata_recorded]
  cases result with
  | error error =>
      exact Resource.steady_of_timeless
        (fun conditions => { cluster.statusOrInitial with conditions })
        (Condition.timeless_markError error.reason error.message) metadata
        (fun _ => rfl) (fun _ => rfl) fun _ => rfl
  | ok children =>
      let services := cluster.roleStatuses children
      have undated (now later : Instant) :
          (readyCondition now services).undated = (readyCondition later services).undated := by
        unfold readyCondition
        dsimp only
        split <;> rfl
      have timeless := Condition.timeless_markSuccess_set undated
        (fun now => type_readyCondition now services) (by decide) (by decide)
      exact Resource.steady_of_timeless
        (fun conditions =>
          { conditions
            version :=
              if services.all RoleStatus.ready then some cluster.spec.version
              else cluster.statusOrInitial.version
            services })
        timeless metadata (fun _ => rfl) (fun _ => rfl) fun _ => rfl

end Cluster

/-- A cluster after a pass that has read it. -/
def Cluster.writtenBack (cluster after : Cluster) (writer : Store) : Cluster :=
  if (ObjectPatch.between cluster after).isEmpty then cluster
  else cluster.withPatch (.between cluster after) writer

/-- The store after the write at the end of a pass. -/
def Store.writeBackCluster (key : ObjectKey) (cluster after : Cluster) (store : Store) : Store :=
  if (ObjectPatch.between cluster after).isEmpty then store
  else (store.patchCluster key (.between cluster after)).2

namespace Store

variable {store : Store} {key : ObjectKey} {cluster after : Cluster}

theorem get?_writeBackCluster (there : store.clusters.get? key = some cluster) :
    (store.writeBackCluster key cluster after).clusters.get? key =
      some (cluster.writtenBack after store.advance) := by
  unfold writeBackCluster Cluster.writtenBack
  split
  · exact there
  · exact (patchCluster_of_current there rfl).2.2

/-- The write at the end of a pass is about the cluster only. -/
theorem frame_writeBackCluster (store : Store) (key : ObjectKey) (cluster after : Cluster) :
    (store.writeBackCluster key cluster after).namespaces = store.namespaces ∧
      (store.writeBackCluster key cluster after).children = store.children ∧
      ∀ other, key ≠ other →
        (store.writeBackCluster key cluster after).clusters.get? other =
          store.clusters.get? other := by
  unfold writeBackCluster
  split
  · exact ⟨rfl, rfl, fun _ _ => rfl⟩
  · dsimp only [patchCluster]
    split
    · exact ⟨rfl, rfl, fun _ _ => rfl⟩
    · refine ⟨rfl, rfl, fun other ne => ?_⟩
      exact (SortedMap.get?_insert _ _ _ _).trans (if_neg ne)

end Store

/-- What a pass leaves of its cluster is the same at any time, but for version and times. -/
theorem Cluster.essence_writtenBack {cluster : Cluster} {after : Instant → Cluster}
    (steady : cluster.Steady after) (now later : Instant) (writer other : Store) :
    (cluster.writtenBack (after now) writer).essence =
      (cluster.writtenBack (after later) other).essence := by
  unfold writtenBack
  rw [steady.isEmpty_between now later]
  split
  · rfl
  · exact steady.essence_withPatch now later writer other

/-- A new spec is not written in a patch. -/
theorem Cluster.isEmpty_between_spec (cluster : Cluster) (spec : ClusterSpec) :
    (ObjectPatch.between cluster { cluster with spec }).isEmpty := by
  have status : (ObjectPatch.between cluster { cluster with spec }).status = none := if_pos rfl
  have finalizers : (ObjectPatch.between cluster { cluster with spec }).finalizers = none :=
    if_pos rfl
  rw [ObjectPatch.isEmpty, status, finalizers]
  rfl

/-! ### Whole passes -/

/-- No server answers a pass over a cluster. -/
def Replies.never : Replies := fun _ => .error (.conflict "" "")

section Passes

variable {settings : Settings} {now : Instant} {key : ObjectKey} {realm : Realm ρ}
  {cluster : Cluster}

/-- A pass over a cluster that is not being deleted writes what its body leaves. -/
theorem Program.run_reconcileCluster {replies : Replies} {changed : Cluster}
    {result : Except Error Outcome} {left : Store}
    (there : realm.store.clusters.get? key = some cluster)
    (alive : cluster.metadata.isDeleting = false)
    (body : (clusterBody settings now key cluster).run (Store.alone replies) realm.store =
      ((changed, result), left))
    (still : (ObjectPatch.between cluster (changed.record now result)).isEmpty = false →
      left.clusters.get? key = some cluster) :
    ((Subject.cluster key).program settings now).run backend.environment realm =
      (conclude (Subject.cluster key).failureKey result).run.run backend.environment
        { realm with
          store := left.writeBackCluster key cluster (changed.record now result) } := by
  let middle : Realm ρ := { realm with store := left }
  let patch := ObjectPatch.between cluster (changed.record now result)
  have runs : (clusterBody settings now key cluster).run backend.environment realm =
      ((changed, result), middle) := by
    have runs := (run_clusterBody_of_alone backend settings now key cluster replies realm).1
    rw [body] at runs
    exact runs
  have accepted (something : patch.isEmpty = false) :
      (askStore (.patchCluster key patch)).run.run backend.environment middle =
        (.ok (), { middle with store := (left.patchCluster key patch).2 }) := by
    rw [run_askStore]
    exact Prod.ext (Store.patchCluster_of_current (still something) rfl).1 rfl
  unfold Subject.program reconcileCluster
  dsimp only
  rw [run_run_bind, run_askStore]
  dsimp only [Store.answer]
  rw [there]
  dsimp only
  rw [alive, if_neg Bool.false_ne_true, run_run_bind, run_run_lift, runs]
  refine (run_closing accepted).trans ?_
  unfold Store.writeBackCluster
  split <;> rfl

/-- A cluster that is not there, or is being deleted, is left alone. -/
theorem Backend.pass_cluster_of_idle (backend : Backend ρ) (settings : Settings) (now : Instant)
    (idle : ∀ cluster, realm.store.clusters.get? key = some cluster → cluster.metadata.isDeleting) :
    backend.pass settings (.cluster key) now realm =
      (.ok .awaitChange,
        { realm with
          operator := realm.operator.keepAll [.noted (.settled (Cluster.failureKey key))] }) := by
  have ran : ((Subject.cluster key).program settings now).run backend.environment realm =
      (conclude (Subject.cluster key).failureKey (.ok .finished)).run.run backend.environment
        realm := by
    unfold Subject.program reconcileCluster
    dsimp only
    rw [run_run_bind, run_askStore]
    dsimp only [Store.answer]
    cases there : realm.store.clusters.get? key with
    | none => rfl
    | some cluster =>
        dsimp only
        rw [if_pos (idle cluster there)]
        rfl
  exact pass_of_run ran

/-- A pass over a cluster whose spec is not complete replaces it, and does nothing else. -/
theorem Backend.pass_cluster_of_open (backend : Backend ρ) (settings : Settings) (now : Instant)
    (there : realm.store.clusters.get? key = some cluster)
    (own : cluster.metadata.storageKey = key) (alive : cluster.metadata.isDeleting = false)
    (opened : cluster.spec.isNormal = false) :
    backend.pass settings (.cluster key) now realm =
      (.ok .awaitChange,
        { realm with
          store :=
            (realm.store.replaceCluster { cluster with spec := cluster.spec.withDefaults }).2
          operator := realm.operator.keepAll [.noted (.settled (Cluster.failureKey key))] }) := by
  let filled : Cluster := { cluster with spec := cluster.spec.withDefaults }
  have stored : realm.store.clusters.get? filled.metadata.storageKey = some cluster := by
    rw [← there]
    exact congrArg realm.store.clusters.get? own
  have accepted : realm.store.replaceCluster filled =
      (.ok (cluster.replacedBy filled realm.store.advance),
        (realm.store.replaceCluster filled).2) := by
    rw [Store.replaceCluster_of_current stored rfl]
  have untouched : (ObjectPatch.between cluster (filled.record now (.ok .finished))).isEmpty :=
    cluster.isEmpty_between_spec _
  have body : (clusterBody settings now key cluster).run (Store.alone .never) realm.store =
      ((filled, .ok .finished), (realm.store.replaceCluster filled).2) :=
    run_clusterBody_of_open opened accepted
  have ran : ((Subject.cluster key).program settings now).run backend.environment realm = _ :=
    run_reconcileCluster there alive body fun something =>
      absurd untouched (ne_true_of_eq_false something)
  rw [Store.writeBackCluster, if_pos untouched] at ran
  exact pass_of_run ran

/-- A pass over a cluster whose spec is complete is determined by what comes of its children. -/
theorem Backend.pass_cluster_of_normal (backend : Backend ρ) (settings : Settings) (now : Instant)
    (there : realm.store.clusters.get? key = some cluster)
    (filed : ∀ builder ∈ Builder.all, realm.store.Files cluster builder)
    (alive : cluster.metadata.isDeleting = false) (normal : cluster.spec.isNormal) :
    let checked := realm.store.checked cluster
    let outcome := (cluster.concluded now checked.1).2
    backend.pass settings (.cluster key) now realm =
      (conclusion outcome,
        { realm with
          store := checked.2.writeBackCluster key cluster (cluster.recorded now checked.1)
          operator :=
            realm.operator.keepAll (Upkeep.closing (Cluster.failureKey key) outcome) }) := by
  intro checked outcome
  have body : (clusterBody settings now key cluster).run (Store.alone .never) realm.store =
      (((cluster.concluded now checked.1).1, outcome), checked.2) :=
    run_clusterBody_of_normal normal realm.store
  have still : checked.2.clusters.get? key = some cluster := by
    rw [← there]
    exact congrArg (·.get? key) (Store.frame_checked filed).1
  exact pass_of_run (run_reconcileCluster there alive body fun _ => still)

end Passes

/-! ### The footprint -/

section Local

variable {settings : Settings} {key : ObjectKey} {start : Realm ρ} {cluster : Cluster}

theorem Backend.local_cluster_of_open (backend : Backend ρ)
    (there : start.store.clusters.get? key = some cluster)
    (own : cluster.metadata.storageKey = key) (alive : cluster.metadata.isDeleting = false)
    (opened : cluster.spec.isNormal = false) : backend.Local settings start (.cluster key) := by
  let filled : Cluster := { cluster with spec := cluster.spec.withDefaults }
  let next (_ : Instant) (realm : Realm ρ) : Realm ρ :=
    { realm with store := (realm.store.replaceCluster filled).2 }
  have found {realm : Realm ρ} (same : start.SameFor (.cluster key) realm) :
      realm.store.clusters.get? key = some cluster :=
    Eq.trans (same _ (.own (.cluster key))) there
  have replaced {realm : Realm ρ} (same : start.SameFor (.cluster key) realm) :
      (realm.store.replaceCluster filled).2.clusters =
        realm.store.clusters.insert key (cluster.replacedBy filled realm.store.advance) ∧
      (realm.store.replaceCluster filled).2.namespaces = realm.store.namespaces ∧
      (realm.store.replaceCluster filled).2.children = realm.store.children := by
    have stored : realm.store.clusters.get? filled.metadata.storageKey = some cluster := by
      rw [← found same]
      exact congrArg realm.store.clusters.get? own
    rw [Store.replaceCluster_of_current stored rfl]
    exact ⟨congrArg (realm.store.clusters.insert · _) own, rfl, rfl⟩
  have areOf : ∀ one ∈ [Upkeep.noted (.settled (Subject.cluster key).failureKey)],
      one.IsOf (.cluster key) := by
    rintro upkeep (_ | ⟨_, ⟨⟩⟩)
    rfl
  refine local_of_pass next areOf
    (fun now realm same =>
      backend.pass_cluster_of_open settings now (found same) own alive opened)
    (fun now realm same place other => ?_) fun now realm same place own => ?_
  · rcases replaced same with ⟨clusters, namespaces, children⟩
    cases place with
    | cluster second =>
        refine (congrArg (·.get? second) clusters).trans ?_
        rw [SortedMap.get?_insert]
        refine if_neg ?_
        rintro rfl
        exact other (.cluster key)
    | ns second => exact congrArg (·.get? second) namespaces
    | child second => exact congrArg (·.get? second) children
    | remote cluster name => rfl
  · have startSame := start.sameFor_refl (.cluster key)
    cases own with
    | cluster =>
        dsimp only [Realm.AlikeAt, next]
        rw [(replaced same).1, (replaced startSame).1, SortedMap.get?_insert_self,
          SortedMap.get?_insert_self]
        rfl
    | child found builder =>
        dsimp only [Realm.AlikeAt, next]
        rw [(replaced same).2.2, (replaced startSame).2.2]
        exact (same _ (.own (.child found builder))).alikeAt

theorem Backend.local_cluster_of_normal (backend : Backend ρ)
    (there : start.store.clusters.get? key = some cluster)
    (filed : ∀ builder ∈ Builder.all, start.store.Files cluster builder)
    (alive : cluster.metadata.isDeleting = false) (normal : cluster.spec.isNormal) :
    backend.Local settings start (.cluster key) := by
  let result := (start.store.checked cluster).1
  let outcome := (cluster.concluded default result).2
  let next (now : Instant) (realm : Realm ρ) : Realm ρ :=
    { realm with
      store := (realm.store.checked cluster).2.writeBackCluster key cluster
        (cluster.recorded now result) }
  have found {realm : Realm ρ} (same : start.SameFor (.cluster key) realm) :
      realm.store.clusters.get? key = some cluster :=
    Eq.trans (same _ (.own (.cluster key))) there
  have children {realm : Realm ρ} (same : start.SameFor (.cluster key) realm)
      (builder : Builder) (_ : builder ∈ Builder.all) :
      realm.store.children.get? (builder.key cluster) =
        start.store.children.get? (builder.key cluster) :=
    same _ (.own (.child there builder))
  have files {realm : Realm ρ} (same : start.SameFor (.cluster key) realm)
      (builder : Builder) (known : builder ∈ Builder.all) : realm.store.Files cluster builder :=
    (filed builder known).of_eq (children same builder known)
  have concludes {realm : Realm ρ} (same : start.SameFor (.cluster key) realm) (now : Instant) :
      cluster.concluded now (realm.store.checked cluster).1 = cluster.concluded now result :=
    (Cluster.concluded_congr now (Store.checked_congr filed (children same)).1).symm
  have passes (now : Instant) (realm : Realm ρ) (same : start.SameFor (.cluster key) realm) :
      backend.pass settings (.cluster key) now realm =
        (conclusion outcome,
          { next now realm with
            operator := realm.operator.keepAll <|
              Upkeep.closing (Subject.cluster key).failureKey outcome }) := by
    have records : cluster.recorded now (realm.store.checked cluster).1 =
        cluster.recorded now result := by
      rw [Cluster.recorded, concludes same, Cluster.recorded]
    have ends : (cluster.concluded now result).2 = outcome := concluded_snd _ _ _ _ _
    rw [backend.pass_cluster_of_normal settings now (found same) (files same) alive normal]
    dsimp only
    rw [records, concludes same, ends]
    rfl
  refine local_of_pass next Upkeep.isOf_closing passes (fun now realm same place other => ?_)
    fun now realm same place own => ?_
  · rcases Store.frame_checked (files same) with ⟨clusters, outside⟩
    rcases (realm.store.checked cluster).2.frame_writeBackCluster key cluster
      (cluster.recorded now result) with ⟨namespaces, stays, others⟩
    cases place with
    | cluster second =>
        have ne : key ≠ second := by
          rintro rfl
          exact other (.cluster key)
        exact (others second ne).trans (congrArg (·.get? second) clusters)
    | ns second =>
        have still := (run_clusterBody_of_alone backend settings now key cluster .never realm).2
        rw [run_clusterBody_of_normal normal] at still
        exact congrArg (·.get? second) (namespaces.trans still)
    | child second =>
        refine (congrArg (·.get? second) stays).trans (outside second fun builder is => ?_)
        subst is
        exact other (.child there builder)
    | remote cluster name => rfl
  · have startSame := start.sameFor_refl (.cluster key)
    have stored {realm : Realm ρ} (same : start.SameFor (.cluster key) realm) :
        (realm.store.checked cluster).2.clusters.get? key = some cluster := by
      rw [(Store.frame_checked (files same)).1, found same]
    cases own with
    | cluster =>
        dsimp only [Realm.AlikeAt, next]
        rw [Store.get?_writeBackCluster (stored same),
          Store.get?_writeBackCluster (stored startSame)]
        exact congrArg some
          (Cluster.essence_writtenBack (cluster.steady_recorded result) _ _ _ _)
    | child also builder =>
        cases there.symm.trans also
        dsimp only [Realm.AlikeAt, next]
        rw [(Store.frame_writeBackCluster ..).2.1, (Store.frame_writeBackCluster ..).2.1]
        exact ((Store.checked_congr filed (children same)).2 builder).symm

end Local

/-- Passes over a cluster are local. -/
theorem Backend.local_cluster (backend : Backend ρ) (settings : Settings) (key : ObjectKey)
    {start : Realm ρ} (named : start.store.Named) :
    backend.Local settings start (.cluster key) := by
  by_cases idle : ∀ cluster, start.store.clusters.get? key = some cluster →
    cluster.metadata.isDeleting
  · refine local_of_idle ?_ fun now realm same =>
      backend.pass_cluster_of_idle settings now fun cluster there =>
        idle cluster (Eq.trans (same _ (.own (.cluster key))).symm there)
    rintro upkeep (_ | ⟨_, ⟨⟩⟩)
    rfl
  · rcases Classical.not_forall.mp idle with ⟨cluster, wakes⟩
    rcases Classical.not_imp.mp wakes with ⟨there, alive⟩
    have alive := eq_false_of_ne_true alive
    cases normal : cluster.spec.isNormal with
    | true =>
        refine backend.local_cluster_of_normal there ?_ alive normal
        exact fun builder _ child found => named.children _ child found
    | false => exact backend.local_cluster_of_open there (named.clusters _ _ there) alive normal

end ClusterOperator
