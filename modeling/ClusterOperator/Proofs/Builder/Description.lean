import ClusterOperator.Proofs.Builder.Shape

/-!
# What builders describe

A builder describes what its service exposes, or what its deployment runs, and then applies the
description. Each description is read off the spec of the cluster, and is only made where the ports
that it speaks of are set.
-/

namespace ClusterOperator

/-! ### Ports that have to be set -/

namespace Cluster

variable {cluster : Cluster} {role : Role} {field : String} {port : Option Int} {number : Int}

theorem requirePort_eq_ok_iff :
    cluster.requirePort role field port = .ok number ↔ port = some number := by
  cases port <;> simp [requirePort]

theorem rpcPort_eq_ok_iff :
    cluster.rpcPort role = .ok number ↔ (cluster.roleSettings role).port = some number :=
  requirePort_eq_ok_iff

theorem membershipPort_eq_ok_iff :
    cluster.membershipPort role = .ok number ↔
      (cluster.roleSettings role).membershipPort = some number :=
  requirePort_eq_ok_iff

/-- A port can only be set in a service that is declared. -/
theorem role?_eq_of_port (isSet : (cluster.roleSettings role).port = some number) :
    cluster.spec.role? role = some (cluster.roleSettings role) := by
  unfold roleSettings at isSet ⊢
  cases declared : cluster.spec.role? role with
  | none =>
      rw [declared] at isSet
      cases isSet
  | some settings => rfl

end Cluster

/-! ### Services -/

namespace Exposure

variable {cluster : Cluster} {labels : StringMap String} {exposure : Exposure}

theorem frontend_eq_ok (described : frontend cluster labels = .ok exposure) :
    ∃ rpc, (cluster.roleSettings .frontend).port = some rpc ∧
      exposure =
        { component := .role .frontend
          labels
          headless := false
          ports := .toNamed "grpc-rpc" rpc "rpc" ::
            ((cluster.roleSettings .frontend).httpPort.map fun port =>
              ServicePort.toNamed "http" port "http").toList } := by
  rcases Except.bind_eq_ok_iff.mp described with ⟨rpc, isSet, made⟩
  cases made
  exact ⟨rpc, Cluster.rpcPort_eq_ok_iff.mp isSet, rfl⟩

theorem members_eq_ok {role : Role} (described : members cluster role labels = .ok exposure) :
    ∃ rpc membership, (cluster.roleSettings role).port = some rpc ∧
      (cluster.roleSettings role).membershipPort = some membership ∧
      exposure =
        { component := .role role
          labels
          headless := true
          ports :=
            [.toNamed "tcp-rpc" rpc "rpc", .toNamed "tcp-membership" membership "membership",
              .toNamed "http-metrics" metricsPort "metrics"] } := by
  rcases Except.bind_eq_ok_iff.mp described with ⟨rpc, isSet, described⟩
  rcases Except.bind_eq_ok_iff.mp described with ⟨membership, alsoSet, made⟩
  cases made
  exact ⟨rpc, membership, Cluster.rpcPort_eq_ok_iff.mp isSet,
    Cluster.membershipPort_eq_ok_iff.mp alsoSet, rfl⟩

end Exposure

/-! ### Deployments -/

namespace Workload

variable {cluster : Cluster} {workload : Workload}

theorem rolePorts_eq_ok {role : Role} {ports : List ContainerPort}
    (described : rolePorts cluster role = .ok ports) :
    ∃ rpc membership, (cluster.roleSettings role).port = some rpc ∧
      (cluster.roleSettings role).membershipPort = some membership ∧
      ports =
        [.tcp "rpc" rpc, .tcp "membership" membership, .tcp "metrics" metricsPort] ++
          ((if role = .frontend then (cluster.roleSettings role).httpPort else none).map
            (ContainerPort.tcp "http")).toList := by
  rcases Except.bind_eq_ok_iff.mp described with ⟨rpc, isSet, described⟩
  rcases Except.bind_eq_ok_iff.mp described with ⟨membership, alsoSet, made⟩
  cases made
  exact ⟨rpc, membership, Cluster.rpcPort_eq_ok_iff.mp isSet,
    Cluster.membershipPort_eq_ok_iff.mp alsoSet, rfl⟩

theorem role_eq_ok {role : Role} (described : Workload.role cluster role = .ok workload) :
    ∃ ports, rolePorts cluster role = .ok ports ∧
      workload =
        { component := .role role
          version := cluster.spec.version
          replicas := (cluster.roleSettings role).replicas.getD 1
          containerName := "temporal"
          image := imageReference cluster.spec.image cluster.spec.version
          env := [.plain "SERVICES" role.text, .podAddress "POD_IP"]
          ports := some ports } := by
  rcases Except.bind_eq_ok_iff.mp described with ⟨ports, arePorts, made⟩
  cases made
  exact ⟨ports, arePorts, rfl⟩

theorem ui_eq_ok (described : Workload.ui cluster = .ok workload) :
    ∃ address, workload =
      { component := .ui
        version := (cluster.spec.ui.getD {}).version
        replicas := 1
        containerName := Component.ui.text
        image :=
          imageReference (cluster.spec.ui.getD {}).image (cluster.spec.ui.getD {}).version
        env := [.plain "TEMPORAL_ADDRESS" address]
        ports := some [.tcp "http" uiPort] } := by
  rcases Except.bind_eq_ok_iff.mp described with ⟨address, _, made⟩
  cases made
  exact ⟨address, rfl⟩

theorem adminTools_eq_ok (described : Workload.adminTools cluster = .ok workload) :
    ∃ address, workload =
      { component := .adminTools
        version := cluster.spec.version
        replicas := 1
        containerName := Component.adminTools.text
        image := imageReference (cluster.spec.adminTools.getD {}).image cluster.spec.version
        env := [.plain "TEMPORAL_ADDRESS" address, .plain "TEMPORAL_CLI_ADDRESS" address]
        ports := none } := by
  rcases Except.bind_eq_ok_iff.mp described with ⟨address, _, made⟩
  cases made
  exact ⟨address, rfl⟩

end Workload

/-! ### What the descriptions of a builder have in common -/

namespace Builder

/-- Whether a builder describes a service that stands for every single pod. -/
def isHeadless : Builder → Bool
  | headlessService _ => true
  | _ => false

/-- The name of the container that a builder sees to. -/
def containerName : Builder → String
  | roleDeployment _ => "temporal"
  | builder => builder.component.text

/-- The names of the environment variables that a builder sets. -/
def envNames : Builder → List String
  | roleDeployment _ => ["SERVICES", "POD_IP"]
  | uiDeployment => ["TEMPORAL_ADDRESS"]
  | adminToolsDeployment => ["TEMPORAL_ADDRESS", "TEMPORAL_CLI_ADDRESS"]
  | _ => []

end Builder

variable {cluster : Cluster} {builder : Builder} {exposure : Exposure} {workload : Workload}

/-- What a service exposes is told in the way of a builder. -/
structure Exposure.IsOf (cluster : Cluster) (builder : Builder) (exposure : Exposure) : Prop where
  labels : exposure.labels = builder.labels cluster
  headless : exposure.headless = builder.isHeadless

/-- What a deployment runs is told in the way of a builder. -/
structure Workload.IsOf (cluster : Cluster) (builder : Builder) (workload : Workload) : Prop where
  labels : cluster.childLabels workload.component.text workload.version = builder.labels cluster
  containerName : workload.containerName = builder.containerName
  envNames : workload.env.map EnvVar.name = builder.envNames

theorem Builder.Exposes.isOf (exposes : builder.Exposes cluster exposure) :
    exposure.IsOf cluster builder := by
  cases exposes with
  | frontend described =>
      rcases Exposure.frontend_eq_ok described with ⟨rpc, _, rfl⟩
      exact ⟨rfl, rfl⟩
  | members described =>
      rcases Exposure.members_eq_ok described with ⟨rpc, membership, _, _, rfl⟩
      exact ⟨rfl, rfl⟩
  | ui => exact ⟨rfl, rfl⟩

theorem Builder.Deploys.isOf (deploys : builder.Deploys cluster workload) :
    workload.IsOf cluster builder := by
  cases deploys with
  | role described =>
      rcases Workload.role_eq_ok described with ⟨ports, _, rfl⟩
      exact ⟨rfl, rfl, rfl⟩
  | ui described =>
      rcases Workload.ui_eq_ok described with ⟨address, rfl⟩
      exact ⟨rfl, rfl, rfl⟩
  | adminTools described =>
      rcases Workload.adminTools_eq_ok described with ⟨address, rfl⟩
      exact ⟨rfl, rfl, rfl⟩

end ClusterOperator
