import ClusterOperator.Pass.Cluster
import ClusterOperator.Proofs.Cluster.Children
import ClusterOperator.Proofs.Condition.Settled
import ClusterOperator.Proofs.Program.Conclusion
import ClusterOperator.Proofs.Store.Patch
import ClusterOperator.Proofs.Store.Reached

/-!
# Convergence of clusters

Left alone, passes over a cluster come to rest: a pass makes the spec complete if it has to, the
next one brings the children into shape and reports on them, and from then on every pass comes to
the same and changes nothing, whether all is well, the spec is refused, or some child is.
-/

namespace ClusterOperator

namespace Cluster

variable {cluster : Cluster} {now later : Instant} {result : Except Error (List Child)}

/-- How a pass leaves a cluster whose spec is complete, given what came of checking the spec and of
converging the children, and what came of the pass. -/
def concluded (cluster : Cluster) (now : Instant) :
    Except Error (List Child) → Cluster × Except Error Outcome
  | .error error => (cluster, .error error)
  | .ok children => (cluster.report now (cluster.roleStatuses children), .ok .success)

/-- The cluster with the outcome of the pass in its conditions. -/
def recorded (cluster : Cluster) (now : Instant) (result : Except Error (List Child)) : Cluster :=
  (cluster.concluded now result).1.record now (cluster.concluded now result).2

/-- The cluster as somebody finds it who has patched its status. -/
def restated (cluster : Cluster) (version : Option String) (status : Option ClusterStatus) :
    Cluster :=
  { cluster with metadata := { cluster.metadata with resourceVersion := version }, status }

theorem metadata_recorded (cluster : Cluster) (now : Instant)
    (result : Except Error (List Child)) :
    (cluster.recorded now result).metadata = cluster.metadata := by
  rw [recorded, Resource.metadata_record]
  cases result <;> rfl

theorem isSome_status_recorded (cluster : Cluster) (now : Instant)
    (result : Except Error (List Child)) : (cluster.recorded now result).status.isSome := by
  cases result <;> rfl

/-- Whether all services are ready is no matter of the time. -/
theorem said_readyCondition {services : List RoleStatus} {conditions : List Condition}
    (said : (readyCondition now services).Said conditions) :
    (readyCondition later services).Said conditions := by
  unfold readyCondition at said ⊢
  dsimp only at said ⊢
  split at said
  · rw [if_pos ‹_›]
    exact said
  · rw [if_neg ‹_›]
    exact said

theorem type_readyCondition (now : Instant) (services : List RoleStatus) :
    (readyCondition now services).type = Condition.readyType := by
  unfold readyCondition
  dsimp only
  split <;> rfl

/-- The last pass over the cluster is reported to have succeeded. -/
def succeeded (cluster : Cluster) : Bool :=
  cluster.status.any fun status => Condition.isTrue Condition.successType status.conditions

/-- Only a pass that has converged all children is reported to have succeeded. -/
theorem exists_ok_of_succeeded {version : Option String}
    (success : (cluster.restated version (cluster.recorded now result).status).succeeded) :
    ∃ children, result = .ok children := by
  cases result with
  | ok children => exact ⟨children, rfl⟩
  | error error =>
      have holds : Condition.isTrue Condition.successType
          (Condition.markError error.reason error.message now
            cluster.statusOrInitial.conditions) = true := success
      rw [Condition.isTrue_markError] at holds
      cases holds

theorem inShape_restated {builder : Builder} {version : Option String}
    {status : Option ClusterStatus} {stored : Option Child}
    (inShape : builder.InShape cluster stored) :
    builder.InShape (cluster.restated version status) stored := by
  cases builder <;> exact inShape

/-- A pass that comes to the same as the one before leaves the status as it finds it. -/
theorem status_recorded_restated (version : Option String) :
    ((cluster.restated version (cluster.recorded now result).status).recorded later result).status =
      (cluster.recorded now result).status := by
  cases result with
  | error error =>
      exact congrArg (fun conditions => some { cluster.statusOrInitial with conditions })
        (Condition.markError_markError error.reason error.message now later _)
  | ok children =>
      let services := cluster.roleStatuses children
      let conditions := Condition.markSuccess now
        (Condition.set (readyCondition now services) cluster.statusOrInitial.conditions).1
      let deployed :=
        if services.all RoleStatus.ready then some cluster.spec.version
        else cluster.statusOrInitial.version
      have said : (readyCondition later services).Said conditions := by
        refine said_readyCondition (Condition.Said.markSuccess (Condition.said_set _ _) ?_ ?_ now)
        · rw [type_readyCondition]
          decide
        · rw [type_readyCondition]
          decide
      have settled : Condition.markSuccess later
          (Condition.set (readyCondition later services) conditions).1 = conditions := by
        rw [Condition.set_of_said said]
        exact Condition.markSuccess_markSuccess now later _
      have version :
          (if services.all RoleStatus.ready then some cluster.spec.version else deployed) =
            deployed := by
        dsimp only [deployed]
        split <;> rfl
      change some
        { conditions :=
            Condition.markSuccess later
              (Condition.set (readyCondition later services) conditions).1
          version := if services.all RoleStatus.ready then some cluster.spec.version else deployed
          services : ClusterStatus } = some { conditions, version := deployed, services }
      rw [settled, version]

end Cluster

namespace Store

variable {store later : Store} {cluster : Cluster}

/-- Checks the spec of a cluster and converges its children. -/
def checked (cluster : Cluster) (store : Store) : Except Error (List Child) × Store :=
  match cluster.spec.validate cluster.key.text with
  | .error error => (.error error, store)
  | .ok () => store.convergeAll cluster Builder.all

/-- The children of a cluster depend neither on its version nor on its status. -/
theorem convergeAll_restated (version : Option String) (status : Option ClusterStatus)
    (builders : List Builder) (store : Store) :
    store.convergeAll (cluster.restated version status) builders =
      store.convergeAll cluster builders := by
  induction builders generalizing store with
  | nil => rfl
  | cons builder rest ih =>
      have one : store.converge (cluster.restated version status) builder =
          store.converge cluster builder := by
        cases builder <;> rfl
      unfold convergeAll
      rw [one]
      simp only [ih]

theorem checked_restated (version : Option String) (status : Option ClusterStatus)
    (store : Store) : store.checked (cluster.restated version status) = store.checked cluster := by
  unfold checked
  rw [convergeAll_restated]
  rfl

/-- Checking and converging a second time comes to the same and changes nothing. -/
theorem checked_again {result : Except Error (List Child)} (versioned : store.Versioned)
    (checks : store.checked cluster = (result, later)) :
    later.clusters = store.clusters ∧
      (∀ children, result = .ok children → ∀ builder ∈ Builder.all,
        builder.InShape cluster (later.children.get? (builder.key cluster))) ∧
      ∀ other, other.children = later.children →
        ∃ last, other.checked cluster = (result, last) ∧ Alike other last := by
  unfold checked at checks ⊢
  split at checks
  · cases checks
    refine ⟨rfl, ?_, fun other _ => ⟨other, rfl, .refl other⟩⟩
    rintro children ⟨⟩
  · have converged := converged_convergeAll versioned (Builder.pairwise_key_ne cluster) checks
    exact ⟨converged.clusters, converged.inShape, converged.again⟩

end Store

namespace Program

variable {replies : Replies} {settings : Settings} {now : Instant} {key : ObjectKey}
  {store : Store} {cluster : Cluster}

theorem run_clusterBody_of_normal (normal : cluster.spec.isNormal) (store : Store) :
    (clusterBody settings now key cluster).run (Store.alone replies) store =
      (cluster.concluded now (store.checked cluster).1, (store.checked cluster).2) := by
  unfold clusterBody Store.checked
  dsimp only
  rw [if_pos normal]
  cases cluster.spec.validate cluster.key.text with
  | error error => rfl
  | ok accepted =>
      dsimp only
      refine (run_bind _ _ _ store).trans ?_
      rw [run_limit]
      have converged := perform_convergeEach replies cluster Builder.all store
      unfold perform at converged
      rw [show (convergeChildren cluster) = convergeEach cluster Builder.all from rfl, converged]
      cases store.convergeAll cluster Builder.all with
      | mk result later => cases result <;> rfl

/-- A pass over a cluster that is not being deleted. -/
theorem perform_reconcileCluster (there : store.clusters.get? key = some cluster)
    (alive : cluster.metadata.isDeleting = false) :
    perform replies (reconcileCluster settings now key) store =
      let left := (clusterBody settings now key cluster).run (Store.alone replies) store
      let patch := ObjectPatch.between cluster (left.1.1.record now left.1.2)
      if patch.isEmpty then (conclusion left.1.2, left.2)
      else
        (conclusion (settle left.1.2 (left.2.patchCluster key patch).1),
          (left.2.patchCluster key patch).2) := by
  unfold reconcileCluster
  rw [perform_bind, perform_askStore]
  dsimp only [Store.answer]
  rw [there]
  dsimp only
  rw [alive, if_neg Bool.false_ne_true, perform_bind, perform_lift]
  rcases (clusterBody settings now key cluster).run (Store.alone replies) store with
    ⟨⟨changed, result⟩, later⟩
  dsimp only
  split
  · rw [perform_bind, perform_pure]
    dsimp only
    rw [perform_conclude, settle_ok]
  · rw [perform_bind, perform_attempt, perform_askStore]
    dsimp only
    rw [perform_conclude]
    rfl

/-- The patch of a pass changes nothing but the status. -/
theorem between_recorded (cluster : Cluster) (now : Instant) (result : Except Error (List Child)) :
    ObjectPatch.between cluster (cluster.recorded now result) =
      { resourceVersion := cluster.metadata.resourceVersion
        finalizers := none
        status :=
          if (cluster.recorded now result).status = cluster.status then none
          else (cluster.recorded now result).status } := by
  unfold ObjectPatch.between
  rw [Cluster.metadata_recorded, if_pos rfl]

/-- A pass over a cluster whose status says already what comes of the pass. -/
theorem perform_of_settled (there : store.clusters.get? key = some cluster)
    (alive : cluster.metadata.isDeleting = false) (normal : cluster.spec.isNormal)
    (settled : (cluster.recorded now (store.checked cluster).1).status = cluster.status) :
    perform replies (reconcileCluster settings now key) store =
      (conclusion (cluster.concluded now (store.checked cluster).1).2,
        (store.checked cluster).2) := by
  have patch := between_recorded cluster now (store.checked cluster).1
  rw [if_pos settled] at patch
  unfold Cluster.recorded at patch
  rw [perform_reconcileCluster there alive, run_clusterBody_of_normal normal]
  dsimp only
  rw [patch]
  exact if_pos rfl

/-- A pass over a cluster whose spec is complete leaves the status that says what came of it. -/
theorem perform_of_normal (versioned : store.Versioned)
    (there : store.clusters.get? key = some cluster)
    (alive : cluster.metadata.isDeleting = false) (normal : cluster.spec.isNormal) :
    ∃ version last,
      perform replies (reconcileCluster settings now key) store =
        (conclusion (cluster.concluded now (store.checked cluster).1).2, last) ∧
      last.children = (store.checked cluster).2.children ∧
      last.clusters.get? key =
        some (cluster.restated version
          (cluster.recorded now (store.checked cluster).1).status) := by
  obtain ⟨result, later, checks⟩ : ∃ result later, store.checked cluster = (result, later) :=
    ⟨_, _, rfl⟩
  have stored : later.clusters.get? key = some cluster := by
    rw [(Store.checked_again versioned checks).1, there]
  by_cases settled : (cluster.recorded now (store.checked cluster).1).status = cluster.status
  · refine ⟨cluster.metadata.resourceVersion, _, perform_of_settled there alive normal settled, rfl,
      ?_⟩
    rw [settled, checks]
    exact stored
  · have patch := between_recorded cluster now (store.checked cluster).1
    rw [if_neg settled] at patch
    rw [checks] at settled patch ⊢
    rcases Store.patchCluster_of_current stored (congrArg ObjectPatch.resourceVersion patch) with
      ⟨accepted, children, becomes⟩
    rcases Option.isSome_iff_exists.mp (cluster.isSome_status_recorded now result) with
      ⟨status, reported⟩
    have unempty : (ObjectPatch.between cluster (cluster.recorded now result)).isEmpty = false := by
      rw [patch, reported]
      rfl
    refine ⟨some later.advance.currentVersion, _, ?_, children, ?_⟩
    · rw [perform_reconcileCluster there alive, run_clusterBody_of_normal normal, checks]
      refine (if_neg (ne_true_of_eq_false unempty)).trans (Prod.ext ?_ rfl)
      exact congrArg conclusion ((congrArg (settle _) accepted).trans (settle_ok _))
    · rw [becomes, patch, reported]
      rfl

/-- Every further pass over the cluster answers the same and changes nothing. -/
def Quiet (replies : Replies) (key : ObjectKey) (answer : Except Error Action) (store : Store) :
    Prop :=
  ∀ other, Store.Alike store other → ∀ settings now, ∃ last,
    perform replies (reconcileCluster settings now key) other = (answer, last) ∧
      Store.Alike other last

theorem concluded_snd (one other : Cluster) (now later : Instant)
    (result : Except Error (List Child)) :
    (one.concluded now result).2 = (other.concluded later result).2 := by
  cases result <;> rfl

/-- A pass over a cluster whose spec is complete is the last one to change anything. -/
theorem quiet_of_normal (versioned : store.Versioned)
    (there : store.clusters.get? key = some cluster)
    (alive : cluster.metadata.isDeleting = false) (normal : cluster.spec.isNormal) :
    Quiet replies key (perform replies (reconcileCluster settings now key) store).1
      (perform replies (reconcileCluster settings now key) store).2 := by
  rcases perform_of_normal versioned there alive normal with
    ⟨version, last, performed, children, becomes⟩
  rw [performed]
  intro other alike settings later
  rcases Store.checked_again versioned rfl with ⟨_, _, again⟩
  rcases again other (alike.children.trans children) with ⟨final, checks, still⟩
  have found : other.clusters.get? key = some (cluster.restated version
      (cluster.recorded now (store.checked cluster).1).status) := by
    rw [alike.clusters, becomes]
  refine ⟨final, ?_, still⟩
  have rechecks : other.checked (cluster.restated version
      (cluster.recorded now (store.checked cluster).1).status) = _ :=
    (Store.checked_restated version _ other).trans checks
  rw [perform_of_settled found alive normal]
  · rw [rechecks]
    exact Prod.ext (congrArg conclusion (concluded_snd _ _ _ _ _)) rfl
  · rw [rechecks]
    exact Cluster.status_recorded_restated version

theorem run_clusterBody_of_open {replaced : Cluster} {last : Store}
    (opened : cluster.spec.isNormal = false)
    (accepted : store.replaceCluster { cluster with spec := cluster.spec.withDefaults } =
      (.ok replaced, last)) :
    (clusterBody settings now key cluster).run (Store.alone replies) store =
      (({ cluster with spec := cluster.spec.withDefaults }, .ok .finished), last) := by
  unfold clusterBody
  dsimp only
  rw [if_neg (ne_true_of_eq_false opened)]
  refine (run_bind _ _ _ store).trans ?_
  rw [run_limit]
  have asked := perform_askStore replies
    (.replaceCluster { cluster with spec := cluster.spec.withDefaults }) store
  unfold perform at asked
  rw [asked]
  dsimp only [Store.answer]
  rw [accepted]
  rfl

/-- A pass over a cluster whose spec is not complete makes it complete, and does nothing else. -/
theorem perform_of_open (replies : Replies) (settings : Settings) (now : Instant)
    (filed : Store.Filed store.clusters) (there : store.clusters.get? key = some cluster)
    (alive : cluster.metadata.isDeleting = false) (opened : cluster.spec.isNormal = false) :
    ∃ version generation last,
      perform replies (reconcileCluster settings now key) store = (.ok .awaitChange, last) ∧
      last.clusters =
        store.clusters.insert key
          { cluster with
            spec := cluster.spec.withDefaults
            metadata := { cluster.metadata with resourceVersion := version, generation } } ∧
      last.namespaces = store.namespaces ∧ last.children = store.children ∧
      last.writes = store.writes + 1 := by
  let filled : Cluster := { cluster with spec := cluster.spec.withDefaults }
  have own : filled.metadata.storageKey = key := filed key cluster there
  have stored : store.clusters.get? filled.metadata.storageKey = some cluster := by
    rw [own, there]
  have accepted := Store.replaceCluster_of_current stored rfl
  have untouched : (ObjectPatch.between cluster (filled.record now (.ok .finished))).isEmpty := by
    have status : (ObjectPatch.between cluster filled).status = none := if_pos rfl
    have finalizers : (ObjectPatch.between cluster filled).finalizers = none := if_pos rfl
    change (ObjectPatch.between cluster filled).isEmpty
    rw [ObjectPatch.isEmpty, status, finalizers]
    rfl
  have performed : perform replies (reconcileCluster settings now key) store =
      (.ok .awaitChange, (store.replaceCluster filled).2) := by
    rw [perform_reconcileCluster there alive, run_clusterBody_of_open opened accepted, accepted]
    exact if_pos untouched
  rw [accepted, own] at performed
  exact ⟨some store.advance.currentVersion, _, _, performed, rfl, rfl, rfl, rfl⟩

theorem versioned_run {α : Type} (replies : Replies) (program : Program α)
    (versioned : store.Versioned) : (program.run (Store.alone replies) store).2.Versioned :=
  run_alone_preserves replies
    (fun store request versioned => (Store.progress_answer store request).versioned versioned)
    program versioned

/-- One pass over a cluster after the other, each with its own settings and at its own time: what it
answers, and the store after it. -/
def passes (replies : Replies) (key : ObjectKey) (settings : Nat → Settings)
    (clock : Nat → Instant) (store : Store) : Nat → Except Error Action × Store
  | 0 => perform replies (reconcileCluster (settings 0) (clock 0) key) store
  | count + 1 =>
      perform replies (reconcileCluster (settings (count + 1)) (clock (count + 1)) key)
        (passes replies key settings clock store count).2

variable {clock : Nat → Instant} {settings : Nat → Settings}

/-- Once it is quiet it stays quiet. -/
theorem passes_of_quiet {start : Nat}
    (quiet : Quiet replies key (passes replies key settings clock store start).1
      (passes replies key settings clock store start).2) (count : Nat) :
    (passes replies key settings clock store (start + count)).1 =
        (passes replies key settings clock store start).1 ∧
      Store.Alike (passes replies key settings clock store start).2
        (passes replies key settings clock store (start + count)).2 := by
  induction count with
  | zero => exact ⟨rfl, .refl _⟩
  | succ count ih =>
      rcases quiet _ ih.2 (settings (start + count + 1)) (clock (start + count + 1)) with
        ⟨last, performed, still⟩
      rw [← Nat.add_assoc, passes, performed]
      exact ⟨rfl, ih.2.trans still⟩

/-- After one pass the spec is complete. -/
theorem exists_normal_after (replies : Replies) (settings : Settings) (now : Instant)
    (versioned : store.Versioned) (filed : Store.Filed store.clusters)
    (there : store.clusters.get? key = some cluster)
    (alive : cluster.metadata.isDeleting = false) :
    ∃ later, (perform replies (reconcileCluster settings now key) store).2.clusters.get? key =
      some later ∧ later.metadata.isDeleting = false ∧ later.spec.isNormal := by
  cases normal : cluster.spec.isNormal with
  | true =>
      rcases perform_of_normal versioned there alive normal with
        ⟨version, last, performed, _, becomes⟩
      rw [performed]
      exact ⟨_, becomes, alive, normal⟩
  | false =>
      rcases perform_of_open replies settings now filed there alive normal with
        ⟨version, generation, last, performed, clusters, _⟩
      rw [performed]
      dsimp only
      rw [clusters]
      exact ⟨_, SortedMap.get?_insert_self _ _ _, alive,
        decide_eq_true (ClusterSpec.withDefaults_withDefaults _)⟩

/-- A pass over a cluster with a complete spec reports a success only with all children in shape. -/
theorem inShape_of_succeeded {settings : Settings} {later : Cluster} (versioned : store.Versioned)
    (there : store.clusters.get? key = some cluster)
    (alive : cluster.metadata.isDeleting = false) (normal : cluster.spec.isNormal)
    (stored : (perform replies (reconcileCluster settings now key) store).2.clusters.get? key =
      some later) (success : later.succeeded) (builder : Builder) (known : builder ∈ Builder.all) :
    builder.InShape later
      ((perform replies (reconcileCluster settings now key) store).2.children.get?
        (builder.key later)) := by
  rcases perform_of_normal versioned there alive normal with
    ⟨version, last, performed, children, becomes⟩
  rw [performed] at stored ⊢
  cases becomes.symm.trans stored
  rcases Cluster.exists_ok_of_succeeded success with ⟨converged, checks⟩
  have inShape := (Store.checked_again versioned rfl).2.1 converged checks builder known
  dsimp only
  rw [children]
  exact Cluster.inShape_restated inShape

/-- Whatever is in the store, a live cluster comes to rest after two passes. The first one completes
the spec where it is not complete, and changes nothing else; where it is complete the first pass
does what the second one does otherwise, and the second one changes nothing. All later passes answer
what the second one has answered and change nothing. A reported success means that all children are
in shape. -/
theorem unchanged_after_two_passes (replies : Replies) (settings : Nat → Settings)
    (clock : Nat → Instant) (reached : store.Reached)
    (there : store.clusters.get? key = some cluster)
    (alive : cluster.metadata.isDeleting = false) :
    let pass := passes replies key settings clock store
    (cluster.spec.isNormal = false → (pass 0).1 = .ok .awaitChange ∧
      (∃ version generation, (pass 0).2.clusters =
        store.clusters.insert key
          { cluster with
            spec := cluster.spec.withDefaults
            metadata := { cluster.metadata with resourceVersion := version, generation } }) ∧
      (pass 0).2.namespaces = store.namespaces ∧ (pass 0).2.children = store.children ∧
      (pass 0).2.writes = store.writes + 1) ∧
    (cluster.spec.isNormal → ∀ count, (pass count).1 = (pass 0).1 ∧
      Store.Alike (pass 0).2 (pass count).2) ∧
    (∀ count, (pass (1 + count)).1 = (pass 1).1 ∧ Store.Alike (pass 1).2 (pass (1 + count)).2) ∧
    ∀ later, (pass 1).2.clusters.get? key = some later → later.succeeded →
      ∀ builder ∈ Builder.all,
        builder.InShape later ((pass 1).2.children.get? (builder.key later)) := by
  have versioned := reached.versioned
  rcases exists_normal_after replies (settings 0) (clock 0) versioned reached.filed there alive with
    ⟨middle, stored, stays, complete⟩
  have follows : (passes replies key settings clock store 0).2.Versioned :=
    versioned_run replies _ versioned
  refine ⟨fun opened => ?_, fun normal count => ?_, fun count => ?_, ?_⟩
  · rcases perform_of_open replies (settings 0) (clock 0) reached.filed there alive opened with
      ⟨version, generation, last, performed, clusters, namespaces, children, writes⟩
    dsimp only [passes]
    rw [performed]
    exact ⟨rfl, ⟨version, generation, clusters⟩, namespaces, children, writes⟩
  · have quiet : Quiet replies key (passes replies key settings clock store 0).1
        (passes replies key settings clock store 0).2 :=
      quiet_of_normal versioned there alive normal
    rw [← Nat.zero_add count]
    exact passes_of_quiet quiet count
  · exact passes_of_quiet (quiet_of_normal follows stored stays complete) count
  · intro later becomes success builder known
    exact inShape_of_succeeded follows stored stays complete becomes success builder known

end Program

/-- A cluster of which only the name is known. -/
def Cluster.dev : Cluster where
  metadata := { name := some "dev", ns := some "apps" }
  spec := {}
  status := none

/-- The cluster with a complete spec. -/
def Cluster.complete : Cluster := { Cluster.dev with spec := Cluster.dev.spec.withDefaults }

/-- The cluster is there, and the name of one of its services is taken by somebody else. -/
def Store.contested : Store :=
  ((({} : Store).insertCluster .dev).2.createChild <|
    .service
      { metadata :=
          { name := some "dev-history-headless"
            ns := some "apps"
            ownerReferences :=
              some
                [{ kind := "TemporalCluster", name := "old", uid := "1",
                   controller := some true }] } }).2

namespace Program

theorem unchanged_of_contested :
    let pass := passes (fun _ => .error (.conflict "" "")) Cluster.dev.key (fun _ => {})
      (fun _ => default) .contested
    (pass 0).1 = .ok .awaitChange ∧ (pass 0).2.writes = 2 ∧
      ∀ count, (pass (1 + count)).1 = .error (.builder "apps/dev-history-headless"
        "already controlled by TemporalCluster old") ∧ (pass (1 + count)).2.writes = 6 := by
  have reached : Store.contested.Reached := by
    refine .change (.change .start (.insertCluster _ .dev)) (.request _ (.createChild _))
  have there : Store.contested.clusters.get? Cluster.dev.key =
      some { Cluster.dev with metadata := Cluster.dev.metadata.enter ({} : Store).advance } := rfl
  have rest := unchanged_after_two_passes (fun _ => .error (.conflict "" "")) (fun _ => {})
    (fun _ => default) reached there rfl
  refine ⟨(rest.1 rfl).1, (rest.1 rfl).2.2.2.2, fun count => ?_⟩
  rcases rest.2.2.1 count with ⟨same, alike⟩
  refine ⟨same.trans ?_, alike.writes.trans ?_⟩
  · rfl
  · rfl

end Program

end ClusterOperator
