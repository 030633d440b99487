import ClusterOperator.Proofs.Cluster.Ending
import ClusterOperator.Proofs.Cluster.Rollout

/-!
# Readiness of clusters

A pass that succeeds reports which services are ready, and it goes by the deployments as they are
stored when the pass is over: what the pass has created or replaced itself is not rolled out yet, so
it does not count as ready.
-/

namespace ClusterOperator

/-- Every service is declared in a complete spec, with a number of replicas. -/
theorem ClusterSpec.exists_replicas {spec : ClusterSpec} (normal : spec.isNormal) (role : Role) :
    ∃ settings wanted, spec.role? role = some settings ∧ settings.replicas = some wanted := by
  have same : spec.withDefaults = spec := of_decide_eq_true normal
  rw [← same]
  refine ⟨_, _, RolesSpec.get?_ofFunction _ role, rfl⟩

theorem ClusterSpec.declaredRoles_of_normal {spec : ClusterSpec} (normal : spec.isNormal) :
    spec.declaredRoles = Role.all := by
  refine List.filter_eq_self.mpr fun role _ => ?_
  rcases exists_replicas normal role with ⟨settings, _, declared, _⟩
  rw [declared]
  rfl

namespace Cluster

variable {cluster : Cluster} {store : Store} {role : Role}

/-- A service is ready by what is stored: its deployment has rolled out what was last asked of it,
with as many pods ready as the spec wants. -/
def RoleReady (cluster : Cluster) (store : Store) (role : Role) : Prop :=
  ∃ settings wanted deployment, cluster.spec.role? role = some settings ∧
    settings.replicas = some wanted ∧ store.deployment? cluster role = some deployment ∧
    deployment.RolledOut wanted

/-- What a pass makes of the deployment of a service. -/
def verdict (cluster : Cluster) (store : Store) (role : Role) : Bool :=
  (store.deployment? cluster role).any fun deployment =>
    deployment.isRolledOut (((cluster.spec.role? role).bind RoleSpec.replicas).getD 1)

theorem verdict_iff (normal : cluster.spec.isNormal) :
    cluster.verdict store role ↔ cluster.RoleReady store role := by
  rcases ClusterSpec.exists_replicas normal role with ⟨settings, wanted, declared, replicas⟩
  have count : ((cluster.spec.role? role).bind RoleSpec.replicas).getD 1 = wanted := by
    rw [declared]
    exact congrArg (·.getD 1) replicas
  unfold verdict
  rw [Option.any_eq_true, count]
  constructor
  · rintro ⟨deployment, there, rolledOut⟩
    exact ⟨settings, wanted, deployment, declared, replicas, there,
      Deployment.isRolledOut_iff.mp rolledOut⟩
  · rintro ⟨_, _, deployment, also, count, there, rolledOut⟩
    cases declared.symm.trans also
    cases replicas.symm.trans count
    exact ⟨deployment, there, Deployment.isRolledOut_iff.mpr rolledOut⟩

/-- The services that a pass reports, given the children that are stored after it. -/
theorem roleStatuses_of_stored (normal : cluster.spec.isNormal) :
    cluster.roleStatuses
        (Builder.all.filterMap fun builder => store.children.get? (builder.key cluster)) =
      Role.all.map fun role =>
        { name := role.text
          version := cluster.spec.version
          ready := cluster.verdict store role } := by
  unfold roleStatuses verdict Store.deployment? Store.deployments
  rw [ClusterSpec.declaredRoles_of_normal normal, List.filterMap_filterMap]

/-- What a status says about the services, where it is known which of them are ready. -/
structure Reports (ready : Role → Bool) (version : String) (before : Option String)
    (status : ClusterStatus) : Prop where
  holds : Condition.isTrue Condition.readyType status.conditions ↔ ∀ role, ready role
  /-- Where the condition does not hold it names the services that are not ready. -/
  waits : ∃ condition, Condition.find? Condition.readyType status.conditions = some condition ∧
    ∀ role, ready role = false →
      condition.status = .fails ∧ condition.message = "waiting for " ++
        ", ".intercalate ((Role.all.filter fun role => !ready role).map Role.text)
  services : status.services = Role.all.map fun role =>
    { name := role.text, version, ready := ready role }
  deployed : (∀ role, ready role) → status.version = some version
  kept : ∀ role, ready role = false → status.version = before

section Reports

variable {ready : Role → Bool} {version : String} {now : Instant}

/-- The services with the readiness that is reported for each. -/
def listed (ready : Role → Bool) (version : String) : List RoleStatus :=
  Role.all.map fun role => { name := role.text, version, ready := ready role }

theorem all_listed : (listed ready version).all RoleStatus.ready ↔ ∀ role, ready role := by
  rw [listed, List.all_map, List.all_eq_true]
  exact ⟨fun all role => all role (Role.mem_all role), fun all role _ => all role⟩

theorem pending_listed :
    (listed ready version).filter (fun service => !service.ready) =
      (Role.all.filter fun role => !ready role).map fun role =>
        { name := role.text, version, ready := ready role } := by
  rw [listed, List.filter_map]
  rfl

theorem readyCondition_of_ready (all : ∀ role, ready role) :
    (readyCondition now (listed ready version)).status = .holds := by
  have none : (Role.all.filter fun role => !ready role) = [] := by
    refine List.filter_eq_nil_iff.mpr fun role _ => ?_
    rw [all role]
    decide
  unfold readyCondition
  rw [pending_listed, none]
  rfl

theorem readyCondition_of_unready {role : Role} (unready : ready role = false) :
    (readyCondition now (listed ready version)).status = .fails ∧
      (readyCondition now (listed ready version)).message = "waiting for " ++
        ", ".intercalate ((Role.all.filter fun role => !ready role).map Role.text) := by
  have some : (Role.all.filter fun role => !ready role) ≠ [] := by
    refine List.ne_nil_of_mem (List.mem_filter.mpr ⟨Role.mem_all role, ?_⟩)
    rw [unready]
    rfl
  unfold readyCondition
  rw [pending_listed]
  dsimp only
  rw [if_neg (fun none => some (List.map_eq_nil_iff.mp none)), List.map_map]
  exact ⟨rfl, rfl⟩

/-- What a successful pass stores says which of the services are ready. -/
theorem reports_recorded {children : List Child}
    (statuses : cluster.roleStatuses children = listed ready cluster.spec.version) :
    ∃ status, (cluster.recorded now (.ok children)).status = some status ∧
      Reports ready cluster.spec.version (cluster.status.bind ClusterStatus.version) status := by
  let new := readyCondition now (listed ready cluster.spec.version)
  let status : ClusterStatus :=
    { conditions :=
        Condition.markSuccess now (Condition.set new cluster.statusOrInitial.conditions).1
      version :=
        if (listed ready cluster.spec.version).all RoleStatus.ready then some cluster.spec.version
        else cluster.statusOrInitial.version
      services := listed ready cluster.spec.version }
  have recorded : (cluster.recorded now (.ok children)).status = some status := by
    dsimp only [status, new]
    rw [← statuses]
    rfl
  have type : new.type = Condition.readyType := type_readyCondition now _
  have said : new.Said status.conditions := by
    refine Condition.Said.markSuccess (Condition.said_set _ _) ?_ ?_ now <;> rw [type] <;> decide
  have before : cluster.statusOrInitial.version =
      cluster.status.bind ClusterStatus.version := by
    unfold Resource.statusOrInitial
    cases cluster.status <;> rfl
  refine ⟨status, recorded, ?_, ?_, rfl, ?_, ?_⟩
  · rw [← type, Condition.isTrue_iff_of_said said]
    refine ⟨fun holds role => ?_, readyCondition_of_ready⟩
    cases unready : ready role with
    | true => rfl
    | false => cases holds.symm.trans (readyCondition_of_unready unready).1
  · rcases said with ⟨condition, found, same⟩
    rw [type] at found
    refine ⟨condition, found, fun role unready => ?_⟩
    simp only [Condition.saysSame, Bool.and_eq_true, decide_eq_true_eq] at same
    rcases readyCondition_of_unready unready with ⟨fails, message⟩
    exact ⟨same.1.1.trans fails, same.2.trans message⟩
  · intro all
    exact if_pos (all_listed.mpr all)
  · intro role unready
    rw [← before]
    refine if_neg fun all => ?_
    rw [all_listed.mp all role] at unready
    cases unready

end Reports

end Cluster

namespace Program

variable {replies : Replies} {settings : Settings} {now : Instant} {key : ObjectKey}
  {store last : Store}

/-- What a successful pass leaves, alone with a store. -/
theorem readiness_of_ending (versioned : store.Versioned)
    (performed : perform replies (clusterEnding settings now key) store =
      (.ok (some (.ok .success, .ok ())), last)) :
    ∃ cluster version status ready,
      store.clusters.get? key = some cluster ∧
      last.clusters.get? key = some (cluster.restated version (some status)) ∧
      (∀ role, ready role ↔ cluster.RoleReady last role) ∧
      Cluster.Reports ready cluster.spec.version (cluster.status.bind ClusterStatus.version)
        status ∧
      (∀ builder ∈ Builder.all, builder.Makes cluster
        (store.children.get? (builder.key cluster)) (last.children.get? (builder.key cluster))) ∧
      (store.ChildrenFiled → last.ChildrenFiled) := by
  rcases exists_converged_of_ending performed with
    ⟨cluster, children, there, alive, normal, checks, whole⟩
  rcases perform_of_normal versioned there alive normal with
    ⟨version, final, comes, sameChildren, becomes⟩
  rw [comes] at whole
  cases whole
  rw [checks] at becomes
  have distinct := Builder.pairwise_key_ne cluster
  have converges := Store.convergeAll_of_checked checks
  have gives := Store.convergeAll_ok versioned distinct converges
  rw [← sameChildren] at gives
  have statuses : cluster.roleStatuses children =
      Cluster.listed (cluster.verdict final) cluster.spec.version := by
    rw [gives]
    exact Cluster.roleStatuses_of_stored normal
  rcases Cluster.reports_recorded statuses with ⟨status, recorded, reports⟩
  rw [recorded] at becomes
  have makes := (Store.makes_convergeAll versioned distinct).1
  rw [converges, ← sameChildren] at makes
  have filed (before : store.ChildrenFiled) : final.ChildrenFiled := by
    have after := Store.childrenFiled_convergeAll cluster versioned before
    rw [converges] at after
    unfold Store.ChildrenFiled at after ⊢
    rw [sameChildren]
    exact after
  exact ⟨cluster, version, status, cluster.verdict final, there, becomes,
    fun role => Cluster.verdict_iff normal, reports, makes, filed⟩

variable {σ : Type} {environment : Environment σ} {view : σ → Store} {state final : σ}

/-- A pass over a cluster that ends in a success which is written down, or needs no writing, says of
the services what is stored about their deployments when the pass is over, and changes nothing else
about the cluster but its version. Nobody else writes meanwhile, but requests may fail and deadlines
may strike. Where no deployment was reported to be rolled out further than it was ever asked, a
service whose deployment the pass has created or replaced is not ready. The deployment of a service
is the one that bears its name, which is the one under its key where children stand under their own
keys. -/
theorem readiness_of_success (solitary : environment.Solitary view)
    (reached : (view state).Reached)
    (succeeded : (clusterEnding settings now key).run.run environment state =
      (.ok (some (.ok .success, .ok ())), final)) :
    ∃ cluster version status ready,
      (view state).clusters.get? key = some cluster ∧
      (view final).clusters.get? key = some (cluster.restated version (some status)) ∧
      (∀ role, ready role ↔ cluster.RoleReady (view final) role) ∧
      Cluster.Reports ready cluster.spec.version (cluster.status.bind ClusterStatus.version)
        status ∧
      ((view state).Truthful → ∀ role deployment,
        (view final).deployment? cluster role = some deployment →
        (∀ key, (view state).children.get? key ≠ some (.deployment deployment)) →
        ready role = false) ∧
      ((view state).ChildrenFiled → ∀ role,
        let place : ChildKey :=
          ⟨.deployment, cluster.metadata.ns.getD "", cluster.childName role.text⟩
        (view final).deployment? cluster role =
            ((view final).children.get? place).bind Child.deployment? ∧
          ((view state).Truthful →
            (view final).children.get? place ≠ (view state).children.get? place →
            ready role = false)) := by
  let replies : Replies := fun _ => .error (.conflict "" "")
  have keeps := keeps_clusterEnding_of_success settings now key
  have alone := run_alone_of_granted solitary replies state keeps (congrArg Prod.fst succeeded)
  rw [succeeded] at alone
  rcases readiness_of_ending reached.versioned alone with
    ⟨cluster, version, status, ready, there, becomes, verdicts, reports, makes, filed⟩
  have unready (role : Role)
      (lags : ∀ deployment, (view final).deployment? cluster role = some deployment →
        deployment.Lags) : ready role = false := by
    refine eq_false_of_ne_true fun holds => ?_
    rcases (verdicts role).mp holds with ⟨_, _, deployment, _, _, found, rolledOut⟩
    exact (lags deployment found).not_rolledOut rolledOut
  refine ⟨cluster, version, status, ready, there, becomes, verdicts, reports, ?_, ?_⟩
  · intro truthful role deployment isIt made
    refine unready role fun other found => ?_
    cases isIt.symm.trans found
    rcases Store.mem_deployments.mp (List.mem_of_find?_eq_some isIt) with ⟨builder, known, stored⟩
    rcases Store.lags_of_makes (makes builder known) stored fun held => truthful _ held with
      same | lags
    · exact absurd (same.symm.trans stored) (made _)
    · exact lags
  · intro before role place
    have isPlace : (Builder.roleDeployment role).key cluster = place := Builder.key_eq _ _
    have found := Store.deployment?_eq (filed before) cluster role
    have makes := makes _ (Store.roleDeployment_mem role)
    rw [isPlace] at found makes
    refine ⟨found, fun truthful changed => unready role fun deployment isIt => ?_⟩
    rw [found] at isIt
    rcases Option.bind_eq_some_iff.mp isIt with ⟨child, stored, isDeployment⟩
    cases child with
    | service object => cases isDeployment
    | deployment object =>
        cases isDeployment
        rcases Store.lags_of_makes makes stored fun held => truthful _ held with same | lags
        · exact absurd same changed
        · exact lags

end Program

/-- The cluster is there, and has no children yet. -/
def Store.bare : Store := (({} : Store).insertCluster .complete).2

namespace Program

/-- The first pass makes all deployments, so it succeeds and finds no service ready. -/
theorem readiness_of_complete :
    ∃ final later status,
      (clusterEnding {} default Cluster.complete.key).run.run
          (Store.alone fun _ => .error (.conflict "" "")) .bare =
        (.ok (some (.ok .success, .ok ())), final) ∧
      final.clusters.get? Cluster.complete.key = some later ∧ later.status = some status ∧
      later.isReady = false ∧ status.version = none ∧
      status.services.map RoleStatus.ready = [false, false, false, false] := by
  have reached : Store.bare.Reached := .change .start (.insertCluster _ .complete)
  have solitary := Store.solitary_alone fun _ => .error (.conflict "" "")
  obtain ⟨final, succeeded⟩ : ∃ final,
      (clusterEnding {} default Cluster.complete.key).run.run
          (Store.alone fun _ => .error (.conflict "" "")) .bare =
        (.ok (some (.ok .success, .ok ())), final) := ⟨_, Prod.ext rfl rfl⟩
  rcases readiness_of_success solitary reached succeeded with
    ⟨cluster, version, status, ready, there, becomes, verdicts, reports, made, _⟩
  have absent (key : ChildKey) (child : Child) : Store.bare.children.get? key ≠ some child := by
    have none : Store.bare.children.get? key = none := SortedMap.get?_empty key
    rw [none]
    exact nofun
  have truthful : Store.bare.Truthful := fun key deployment there => absurd there (absent key _)
  have unready (role : Role) : ready role = false := by
    refine eq_false_of_ne_true fun holds => ?_
    rcases (verdicts role).mp holds with ⟨_, _, deployment, _, _, isIt, _⟩
    rw [made truthful role deployment isIt fun key => absent key _] at holds
    cases holds
  have untouched : cluster.status = none := by
    cases there
    rfl
  refine ⟨final, _, status, succeeded, becomes, rfl, ?_, ?_, ?_⟩
  · refine eq_false_of_ne_true fun holds => ?_
    have all := reports.holds.mp holds .frontend
    rw [unready] at all
    cases all
  · rw [reports.kept .frontend (unready .frontend), untouched]
    rfl
  · rw [reports.services, List.map_map]
    exact List.map_congr_left fun role _ => unready role

end Program

end ClusterOperator
