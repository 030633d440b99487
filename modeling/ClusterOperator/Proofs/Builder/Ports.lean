import Mathlib.Data.List.Perm.Basic
import ClusterOperator.Proofs.Builder.Frame
import ClusterOperator.Proofs.Cluster.Validity

/-!
# Ports of child objects

The ports in an object are those that the spec of the cluster sets for a service, and those that are
the same for all clusters. Of the former, no two are the same if the spec is accepted. The latter
are not looked at when a spec is accepted: a service can be given the port of its metrics.
-/

namespace ClusterOperator

/-- The first item that fits is the one that has been changed. -/
theorem find?_upsertFirst {α : Type} {fits : α → Bool} {change : α → α} {blank : α}
    (fitting : ∀ item, fits item → fits (change item)) (fitsBlank : fits blank) (items : List α) :
    (upsertFirst fits change (change blank) items).find? fits =
      some (change ((items.find? fits).getD blank)) := by
  induction items with
  | nil => exact List.find?_cons_of_pos (fitting blank fitsBlank)
  | cons item rest ih =>
      rw [upsertFirst]
      split
      · rename_i fit
        rw [List.find?_cons_of_pos (fitting item fit), List.find?_cons_of_pos fit]
        rfl
      · rename_i other
        rw [List.find?_cons_of_neg other, List.find?_cons_of_neg other, ih]

namespace Builder

/-- The service that the object belongs to; where it belongs to none, nothing is set. -/
def settings (cluster : Cluster) (builder : Builder) : RoleSpec :=
  match builder.component with
  | .role role => cluster.roleSettings role
  | _ => {}

/-- The fields of a service whose ports come into the object. -/
def portFields : Builder → List PortField
  | frontendService => [.port, .httpPort]
  | headlessService _ => [.port, .membershipPort]
  | roleDeployment role =>
      if role = .frontend then [.port, .membershipPort, .httpPort] else [.port, .membershipPort]
  | _ => []

/-- The ports that come into the object of any cluster. -/
def fixedPorts : Builder → List Int
  | headlessService _ => [metricsPort]
  | roleDeployment _ => [metricsPort]
  | uiDeployment => [uiPort]
  | uiService => [uiPort]
  | _ => []

/-- The container that a builder sees to. -/
def containerIn (builder : Builder) (deployment : Deployment) : Option Container :=
  ((deployment.spec.getD {}).template.spec.getD {}).containers.find?
    (·.name = builder.containerName)

/-- The ports in a service, or in the container that a builder sees to, with their protocols. -/
def portsIn (builder : Builder) : Child → List (Option String × Int)
  | .service service =>
      ((service.spec.getD {}).ports.getD []).map fun port => (port.protocol, port.port)
  | .deployment deployment =>
      ((builder.containerIn deployment).bind Container.ports |>.getD []).map fun port =>
        (port.protocol, port.containerPort)

variable {cluster : Cluster} {builder : Builder} {observed shaped : Child}

theorem portsIn_service {exposure : Exposure} {service result : Service}
    (applied : exposure.apply cluster service = .ok result) :
    builder.portsIn (.service result) =
      exposure.ports.map fun port => (port.protocol, port.port) := by
  rcases Exposure.apply_eq_ok applied with ⟨metadata, _, rfl⟩
  have ports : (exposure.applySpec cluster (service.spec.getD {})).ports = some exposure.ports := by
    unfold Exposure.applySpec
    split <;> rfl
  simp only [portsIn, Option.getD_some, ports]

theorem containerIn_apply {workload : Workload} {deployment result : Deployment}
    (deploys : builder.Deploys cluster workload)
    (applied : workload.apply cluster deployment = .ok result) :
    builder.containerIn result =
      some (workload.applyContainer
        ((builder.containerIn deployment).getD { name := builder.containerName })) := by
  rcases Workload.apply_eq_ok applied with ⟨metadata, _, rfl⟩
  unfold containerIn
  rw [← deploys.isOf.containerName]
  have fitting (container : Container)
      (fit : decide (container.name = workload.containerName) = true) :
      decide ((workload.applyContainer container).name = workload.containerName) = true := fit
  exact find?_upsertFirst fitting (decide_eq_true rfl) _

theorem portsIn_deployment {workload : Workload} {deployment result : Deployment}
    (deploys : builder.Deploys cluster workload)
    (applied : workload.apply cluster deployment = .ok result) :
    builder.portsIn (.deployment result) =
      match workload.ports with
      | some ports => ports.map fun port => (port.protocol, port.containerPort)
      | none => builder.portsIn (.deployment deployment) := by
  simp only [portsIn, containerIn_apply deploys applied, Option.bind_some, Workload.applyContainer]
  cases workload.ports with
  | some ports => rfl
  | none =>
      rw [Option.none_or]
      cases builder.containerIn deployment <;> rfl

/-! ### Which ports come into an object -/

theorem portsIn_adminTools
    (updated : adminToolsDeployment.update cluster observed = .ok shaped) :
    adminToolsDeployment.portsIn shaped = adminToolsDeployment.portsIn observed := by
  rcases update_cases updated with
    ⟨exposure, held, result, exposes, _⟩ | ⟨workload, held, result, deploys, rfl, rfl, applied⟩
  · cases exposes
  · rw [portsIn_deployment deploys applied]
    cases deploys with
    | adminTools described =>
        rcases Workload.adminTools_eq_ok described with ⟨address, rfl⟩
        rfl

/-- The numbers that a service has set in the fields that come into the object. -/
def setPorts (cluster : Cluster) (builder : Builder) : List Int :=
  builder.portFields.filterMap (builder.settings cluster).portIn

/-- The ports in an object are those of the service, and those that are fixed. -/
def Lists (cluster : Cluster) (builder : Builder) (ports : List (Option String × Int)) : Prop :=
  (∀ port ∈ ports, port.1 = some "TCP") ∧
    (ports.map Prod.snd).Perm (builder.setPorts cluster ++ builder.fixedPorts)

theorem Exposes.lists {exposure : Exposure} (exposes : builder.Exposes cluster exposure) :
    builder.Lists cluster (exposure.ports.map fun port => (port.protocol, port.port)) := by
  cases exposes with
  | frontend described =>
      rcases Exposure.frontend_eq_ok described with ⟨rpc, isSet, rfl⟩
      have numbers : frontendService.setPorts cluster =
          rpc :: (cluster.roleSettings .frontend).httpPort.toList := by
        simp only [setPorts, portFields, List.filterMap_cons, settings, component, RoleSpec.portIn,
          isSet]
        cases (cluster.roleSettings .frontend).httpPort <;> rfl
      rw [Lists, numbers]
      cases (cluster.roleSettings .frontend).httpPort with
      | none => exact ⟨by simp [ServicePort.toNamed], .refl _⟩
      | some http => exact ⟨by simp [ServicePort.toNamed], .refl _⟩
  | @members role _ described =>
      rcases Exposure.members_eq_ok described with ⟨rpc, membership, isSet, alsoSet, rfl⟩
      have numbers : (headlessService role).setPorts cluster = [rpc, membership] := by
        simp [setPorts, portFields, settings, component, RoleSpec.portIn, isSet, alsoSet]
      rw [Lists, numbers]
      exact ⟨by simp [ServicePort.toNamed], .refl _⟩
  | ui => exact ⟨by simp [Exposure.ui, ServicePort.toNamed], .refl _⟩

theorem Deploys.lists {workload : Workload} (deploys : builder.Deploys cluster workload)
    {ports : List ContainerPort} (isSet : workload.ports = some ports) :
    builder.Lists cluster (ports.map fun port => (port.protocol, port.containerPort)) := by
  cases deploys with
  | @role role _ described =>
      rcases Workload.role_eq_ok described with ⟨listed, arePorts, rfl⟩
      cases isSet
      rcases Workload.rolePorts_eq_ok arePorts with ⟨rpc, membership, isSet, alsoSet, rfl⟩
      -- only the frontend's own HTTP port comes behind the port of the metrics
      have numbers : (roleDeployment role).setPorts cluster = [rpc, membership] ++
          (if role = .frontend then (cluster.roleSettings role).httpPort else none).toList := by
        by_cases front : role = .frontend
        · subst front
          simp only [setPorts, portFields, if_true, List.filterMap_cons, settings, component,
            RoleSpec.portIn, isSet, alsoSet]
          cases (cluster.roleSettings .frontend).httpPort <;> rfl
        · simp [setPorts, portFields, settings, component, RoleSpec.portIn, isSet, alsoSet, front]
      rw [Lists, numbers]
      cases if role = .frontend then (cluster.roleSettings role).httpPort else none with
      | none => exact ⟨by simp [ContainerPort.tcp], .refl _⟩
      | some http =>
          refine ⟨by simp [ContainerPort.tcp], ?_⟩
          exact ((List.Perm.swap http metricsPort []).cons membership).cons rpc
  | ui described =>
      rcases Workload.ui_eq_ok described with ⟨address, rfl⟩
      cases isSet
      exact ⟨by simp [ContainerPort.tcp], .refl _⟩
  | adminTools described =>
      rcases Workload.adminTools_eq_ok described with ⟨address, rfl⟩
      cases isSet

theorem lists_update (updated : builder.update cluster observed = .ok shaped)
    (listing : builder ≠ .adminToolsDeployment) :
    builder.Lists cluster (builder.portsIn shaped) := by
  rcases update_cases updated with
    ⟨exposure, held, result, exposes, rfl, rfl, applied⟩ |
      ⟨workload, held, result, deploys, rfl, rfl, applied⟩
  · rw [portsIn_service applied]
    exact exposes.lists
  · have isSet : ∃ ports, workload.ports = some ports := by
      cases deploys with
      | role described =>
          rcases Workload.role_eq_ok described with ⟨ports, _, rfl⟩
          exact ⟨ports, rfl⟩
      | ui described =>
          rcases Workload.ui_eq_ok described with ⟨address, rfl⟩
          exact ⟨_, rfl⟩
      | adminTools described => exact (listing rfl).elim
    rcases isSet with ⟨ports, isSet⟩
    rw [portsIn_deployment deploys applied, isSet]
    exact deploys.lists isSet

/-! ### Where a port is listed twice -/

theorem valid_settings {object : String} (accepted : cluster.spec.validate object = .ok ())
    (builder : Builder) : (builder.settings cluster).Valid := by
  unfold settings
  split
  · rename_i role _
    unfold Cluster.roleSettings
    cases declared : cluster.spec.role? role with
    | none => exact RoleSpec.valid_blank
    | some settings =>
        exact ClusterSpec.validate_eq_ok_iff.mp accepted role settings declared
  · exact RoleSpec.valid_blank

theorem nodup_portFields (builder : Builder) : builder.portFields.Nodup := by
  cases builder with
  | headlessService role => cases role <;> decide
  | roleDeployment role => cases role <;> decide
  | _ => decide

theorem nodup_setPorts {object : String} (accepted : cluster.spec.validate object = .ok ())
    (builder : Builder) : (builder.setPorts cluster).Nodup :=
  builder.nodup_portFields.filterMap fun field other number isHere isThere =>
    (valid_settings accepted builder).distinct field other number isHere isThere

theorem nodup_fixedPorts (builder : Builder) : builder.fixedPorts.Nodup := by
  unfold fixedPorts
  split <;> decide

/-- A service is given a port that comes into the object anyway. -/
def TakesFixedPort (cluster : Cluster) (builder : Builder) : Prop :=
  ∃ field ∈ builder.portFields, ∃ number ∈ builder.fixedPorts,
    (builder.settings cluster).portIn field = some number

theorem disjoint_iff :
    (builder.setPorts cluster).Disjoint builder.fixedPorts ↔ ¬ builder.TakesFixedPort cluster := by
  constructor
  · rintro disjoint ⟨field, there, number, fixed, isSet⟩
    exact disjoint (List.mem_filterMap.mpr ⟨field, there, isSet⟩) fixed
  · intro free number set fixed
    rcases List.mem_filterMap.mp set with ⟨field, there, isSet⟩
    exact free ⟨field, there, number, fixed, isSet⟩

/-- All ports in an object are for TCP. Of an accepted spec, no two of them have the same number,
unless a service is given the port of its metrics. The admin tools have the ports that are
observed. -/
theorem ports_of_update {object : String} (accepted : cluster.spec.validate object = .ok ())
    (updated : builder.update cluster observed = .ok shaped) :
    (builder ≠ .adminToolsDeployment →
      (∀ port ∈ builder.portsIn shaped, port.1 = some "TCP") ∧
      (((builder.portsIn shaped).map Prod.snd).Nodup ↔ ¬ builder.TakesFixedPort cluster)) ∧
    (builder = .adminToolsDeployment → builder.portsIn shaped = builder.portsIn observed) := by
  refine ⟨fun listing => ?_, ?_⟩
  · rcases lists_update updated listing with ⟨tcp, numbers⟩
    refine ⟨tcp, ?_⟩
    rw [numbers.nodup_iff, List.nodup_append', disjoint_iff]
    constructor
    · rintro ⟨_, _, free⟩
      exact free
    · exact fun free => ⟨nodup_setPorts accepted builder, nodup_fixedPorts builder, free⟩
  · rintro rfl
    exact portsIn_adminTools updated

end Builder

/-- A cluster with nothing to fill in, whose history service is called on the port of its metrics.
-/
def Cluster.overlapping : Cluster where
  metadata := { name := some "prod", ns := some "apps", uid := some "1" }
  spec := ClusterSpec.withDefaults
    { services := some { history := some { port := some metricsPort } } }
  status := none

/-- The spec is accepted, and the service by which the members find one another lists a port
twice. -/
theorem Builder.ports_of_update_of_overlapping :
    Cluster.overlapping.spec.isNormal ∧
    Cluster.overlapping.spec.validate "apps/prod" = .ok () ∧
    ∃ shaped,
      (headlessService .history).update .overlapping
        ((headlessService .history).skeleton .overlapping) = .ok shaped ∧
      (headlessService .history).TakesFixedPort .overlapping ∧
      ¬ (((headlessService .history).portsIn shaped).map Prod.snd).Nodup := by
  have accepted : Cluster.overlapping.spec.validate "apps/prod" = .ok () := rfl
  obtain ⟨shaped, updated⟩ :
      ∃ shaped, (headlessService .history).update .overlapping
        ((headlessService .history).skeleton .overlapping) = .ok shaped :=
    ⟨_, rfl⟩
  have taken : (headlessService .history).TakesFixedPort .overlapping :=
    ⟨.port, by decide, metricsPort, by decide, rfl⟩
  have listed := (ports_of_update accepted updated).1 (by decide)
  exact ⟨by decide, accepted, shaped, updated, taken, fun nodup => listed.2.mp nodup taken⟩

end ClusterOperator
