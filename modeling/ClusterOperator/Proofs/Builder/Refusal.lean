import ClusterOperator.Proofs.Builder.Description
import ClusterOperator.Proofs.Builder.Keys
import ClusterOperator.Proofs.Cluster.Filling

/-!
# What builders refuse

A builder needs the ports that it speaks of, an object of its kind, a cluster with a name and an
identity, and an object that nobody else controls. A complete spec has all ports, so for a cluster
that has been stored under a name only the last can be missing.
-/

namespace ClusterOperator

/-- The error that names the owner of an object. -/
def OwnerReference.refusal (metadata : Metadata) (owner : OwnerReference) : Error :=
  .builder metadata.storageKey.text ("already controlled by " ++ owner.kind ++ " " ++ owner.name)

/-- The cluster has all that a reference to it needs. -/
structure Cluster.Identified (cluster : Cluster) : Prop where
  named : cluster.metadata.name.isSome
  known : cluster.metadata.uid.isSome

namespace Cluster

variable {cluster : Cluster} {metadata : Metadata} {labels : StringMap String}

/-- The first owner that controls an object and is not the cluster. -/
def rival? (cluster : Cluster) (metadata : Metadata) : Option OwnerReference :=
  (metadata.ownerReferences.getD []).find? fun owner =>
    owner.controller = some true && cluster.metadata.uid ≠ some owner.uid

/-- There is a result where nobody else controls the object, and else an error that names who
does. -/
inductive Adopts {α : Type} (cluster : Cluster) (metadata : Metadata) : Except Error α → Prop
  | free (value : α) (unrivalled : cluster.rival? metadata = none) :
      Adopts cluster metadata (.ok value)
  | refused {owner : OwnerReference} (rivalled : cluster.rival? metadata = some owner) :
      Adopts cluster metadata (.error (owner.refusal metadata))

namespace Adopts

variable {α β : Type} {result : Except Error α}

theorem map (adopts : cluster.Adopts metadata result) (change : α → β) :
    cluster.Adopts metadata (result.map change) := by
  cases adopts with
  | free value unrivalled => exact .free (change value) unrivalled
  | refused rivalled => exact .refused rivalled

/-- Of an object nothing matters here but its key and its owners. -/
theorem of_sameOwners {other : Metadata} (adopts : cluster.Adopts other result)
    (owners : other.ownerReferences = metadata.ownerReferences)
    (key : other.storageKey = metadata.storageKey) : cluster.Adopts metadata result := by
  have same : cluster.rival? other = cluster.rival? metadata := by
    simp only [rival?, owners]
  cases adopts with
  | free value unrivalled => exact .free value (same ▸ unrivalled)
  | @refused owner rivalled =>
      have refusal : owner.refusal other = owner.refusal metadata := by
        simp only [OwnerReference.refusal, key]
      rw [refusal]
      exact .refused (same ▸ rivalled)

theorem exists_ok (adopts : cluster.Adopts metadata result)
    (unrivalled : cluster.rival? metadata = none) : ∃ value, result = .ok value := by
  cases adopts with
  | free value _ => exact ⟨value, rfl⟩
  | refused rivalled => cases unrivalled.symm.trans rivalled

theorem exists_rival {error : Error}
    (adopts : cluster.Adopts metadata (.error error : Except Error α)) :
    ∃ owner, cluster.rival? metadata = some owner ∧ error = owner.refusal metadata := by
  cases adopts with
  | refused rivalled => exact ⟨_, rivalled, rfl⟩

end Adopts

theorem adopts_control (identified : cluster.Identified) (metadata : Metadata) :
    cluster.Adopts metadata (cluster.control metadata) := by
  rcases Option.isSome_iff_exists.mp identified.named with ⟨name, named⟩
  rcases Option.isSome_iff_exists.mp identified.known with ⟨uid, known⟩
  have reference : cluster.controllerReference? = some
      { apiVersion := "temporal.io/v1beta1", kind := "TemporalCluster", name, uid,
        controller := some true } := by
    simp [controllerReference?, named, known]
  have rivals : cluster.rival? metadata = (metadata.ownerReferences.getD []).find? fun owner =>
      owner.controller = some true && owner.uid ≠ uid := by
    simp [rival?, known, eq_comm]
  unfold control
  rw [reference]
  dsimp only
  split
  · rename_i owner rivalled
    exact .refused (rivals.trans rivalled)
  · rename_i unrivalled
    exact .free _ (rivals.trans unrivalled)

theorem adopts_adopt (identified : cluster.Identified) (labels : StringMap String)
    (metadata : Metadata) : cluster.Adopts metadata (cluster.adopt labels metadata) :=
  (adopts_control identified _).of_sameOwners rfl rfl

/-! ### Ports of complete specs -/

theorem complete_roleSettings (complete : cluster.spec.Complete) (role : Role) :
    (cluster.roleSettings role).Complete role := by
  rcases complete.roles role with ⟨settings, declared, whole⟩
  simpa [roleSettings, declared] using whole

theorem exists_rpcPort (complete : cluster.spec.Complete) (role : Role) :
    ∃ port, cluster.rpcPort role = .ok port := by
  have set := (complete_roleSettings complete role).port
  rcases Option.isSome_iff_exists.mp set with ⟨port, isSet⟩
  exact ⟨port, rpcPort_eq_ok_iff.mpr isSet⟩

theorem exists_membershipPort (complete : cluster.spec.Complete) (role : Role) :
    ∃ port, cluster.membershipPort role = .ok port := by
  have set := (complete_roleSettings complete role).membershipPort
  rcases Option.isSome_iff_exists.mp set with ⟨port, isSet⟩
  exact ⟨port, membershipPort_eq_ok_iff.mpr isSet⟩

end Cluster

namespace Builder

variable {cluster : Cluster} {builder : Builder}

/-- A complete spec says of every service what it exposes. -/
theorem exists_exposes (complete : cluster.spec.Complete) (kind : builder.kind = .service) :
    ∃ exposure, builder.Exposes cluster exposure := by
  have rpc := Cluster.exists_rpcPort complete
  have membership := Cluster.exists_membershipPort complete
  cases builder with
  | frontendService =>
      have described : ∃ exposure,
          Exposure.frontend cluster (frontendService.labels cluster) = .ok exposure :=
        Except.exists_bind (rpc .frontend) fun _ => ⟨_, rfl⟩
      exact described.imp fun _ => .frontend
  | headlessService role =>
      have described : ∃ exposure,
          Exposure.members cluster role ((headlessService role).labels cluster) = .ok exposure :=
        Except.exists_bind (rpc role) fun _ =>
          Except.exists_bind (membership role) fun _ => ⟨_, rfl⟩
      exact described.imp fun _ => .members
  | uiService => exact ⟨_, .ui⟩
  | roleDeployment role => cases kind
  | uiDeployment => cases kind
  | adminToolsDeployment => cases kind

/-- A complete spec says of every deployment what it runs. -/
theorem exists_deploys (complete : cluster.spec.Complete) (kind : builder.kind = .deployment) :
    ∃ workload, builder.Deploys cluster workload := by
  have rpc := Cluster.exists_rpcPort complete
  have membership := Cluster.exists_membershipPort complete
  have address : ∃ address, cluster.frontendAddress = .ok address :=
    Except.exists_bind (rpc .frontend) fun _ => ⟨_, rfl⟩
  cases builder with
  | roleDeployment role =>
      have listed : ∃ ports, Workload.rolePorts cluster role = .ok ports :=
        Except.exists_bind (rpc role) fun _ =>
          Except.exists_bind (membership role) fun _ => ⟨_, rfl⟩
      have described : ∃ workload, Workload.role cluster role = .ok workload :=
        Except.exists_bind listed fun _ => ⟨_, rfl⟩
      exact described.imp fun _ => .role
  | uiDeployment =>
      have described : ∃ workload, Workload.ui cluster = .ok workload :=
        Except.exists_bind address fun _ => ⟨_, rfl⟩
      exact described.imp fun _ => .ui
  | adminToolsDeployment =>
      have described : ∃ workload, Workload.adminTools cluster = .ok workload :=
        Except.exists_bind address fun _ => ⟨_, rfl⟩
      exact described.imp fun _ => .adminTools
  | frontendService => cases kind
  | headlessService role => cases kind
  | uiService => cases kind

theorem Exposes.update_eq {exposure : Exposure} (exposes : builder.Exposes cluster exposure)
    (service : Service) :
    builder.update cluster (.service service) = (exposure.apply cluster service).map .service := by
  cases exposes with
  | frontend described => simp only [update, updateService, described]; rfl
  | members described => simp only [update, updateService, described]; rfl
  | ui => rfl

theorem Deploys.update_eq {workload : Workload} (deploys : builder.Deploys cluster workload)
    (deployment : Deployment) :
    builder.update cluster (.deployment deployment) =
      (workload.apply cluster deployment).map .deployment := by
  cases deploys with
  | role described => simp only [update, updateDeployment, described]; rfl
  | ui described => simp only [update, updateDeployment, described]; rfl
  | adminTools described => simp only [update, updateDeployment, described]; rfl

/-- For a cluster that has been stored under a name, and whose spec is complete, a builder brings
every object of its kind into shape that nobody else controls. -/
theorem adopts_update {observed : Child} (identified : cluster.Identified)
    (complete : cluster.spec.Complete) (kind : observed.kind = builder.kind) :
    cluster.Adopts observed.metadata (builder.update cluster observed) := by
  cases observed with
  | service service =>
      rcases exists_exposes complete kind.symm with ⟨exposure, exposes⟩
      rw [exposes.update_eq, Exposure.apply_eq_adopt]
      have adopts := Cluster.adopts_adopt identified exposure.labels service.metadata
      exact (adopts.map _).map _
  | deployment deployment =>
      rcases exists_deploys complete kind.symm with ⟨workload, deploys⟩
      rw [deploys.update_eq, Workload.apply_eq_adopt]
      have adopts := Cluster.adopts_adopt identified
        (cluster.childLabels workload.component.text workload.version) deployment.metadata
      exact (adopts.map _).map _

/-- Nobody controls an object that is not there yet. -/
theorem rival?_skeleton (builder : Builder) (cluster : Cluster) :
    cluster.rival? (builder.skeleton cluster).metadata = none := by
  rw [metadata_skeleton]
  rfl

theorem exists_update_skeleton (identified : cluster.Identified)
    (complete : cluster.spec.Complete) (builder : Builder) :
    ∃ shaped, builder.update cluster (builder.skeleton cluster) = .ok shaped :=
  (adopts_update identified complete (builder.kind_skeleton cluster)).exists_ok
    (builder.rival?_skeleton cluster)

end Builder

end ClusterOperator
