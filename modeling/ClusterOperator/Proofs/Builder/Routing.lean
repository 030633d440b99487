import ClusterOperator.Proofs.Builder.Ports

/-!
# Where services lead

A service finds its pods by their labels, and the ports of its pods by their names. The pods also
carry labels that the cluster hands on, and labels that others have put into their template, and
either may use the keys that a selector asks for. The labels that are fixed stand over all of
these, so the pods of a component are found by the objects of that component, and by no others.

The names of ports are chosen where a service is described, the ports that bear them where the
deployment of the same component is, and the numbers come from the spec of the cluster in both
places. Every port of a service leads to one port of the container, and the two agree.
-/

namespace ClusterOperator

/-! ## Pods -/

/-- All that a selector asks for is there. -/
def Selects (selector labels : StringMap String) : Prop :=
  ∀ entry ∈ selector.entries, labels.get? entry.1 = some entry.2

instance (selector labels : StringMap String) : Decidable (Selects selector labels) :=
  inferInstanceAs (Decidable (∀ entry ∈ selector.entries, labels.get? entry.1 = some entry.2))

theorem selects_ofList {entries : List (String × String)} {labels : StringMap String}
    (nodup : (entries.map Prod.fst).Nodup) :
    Selects (.ofList entries) labels ↔
      ∀ entry ∈ entries, labels.get? entry.1 = some entry.2 := by
  have same (entry : String × String) :
      entry ∈ (SortedMap.ofList entries).entries ↔ entry ∈ entries := by
    rcases entry with ⟨key, value⟩
    rw [← SortedMap.get?_eq_some_iff_mem, SortedMap.get?_ofList nodup]
    exact SortedMap.findEntry_eq_some_iff_mem nodup
  simp only [Selects, same]

namespace Component

theorem text_injective {left right : Component} (same : left.text = right.text) :
    left = right := by
  have apart : ∀ one ∈ Builder.all, ∀ other ∈ Builder.all,
      one.component.text = other.component.text → one.component = other.component := by
    decide
  have described (component : Component) : ∃ builder ∈ Builder.all,
      builder.component = component := by
    cases component with
    | role role => exact ⟨.roleDeployment role, Builder.mem_all _, rfl⟩
    | ui => exact ⟨.uiService, Builder.mem_all _, rfl⟩
    | adminTools => exact ⟨.adminToolsDeployment, Builder.mem_all _, rfl⟩
  rcases described left with ⟨one, oneThere, rfl⟩
  rcases described right with ⟨other, otherThere, rfl⟩
  exact apart one oneThere other otherThere same

end Component

theorem Cluster.selects_selector_iff {cluster : Cluster} {component : String}
    {labels : StringMap String} :
    Selects (cluster.selector component) labels ↔
      labels.get? Label.name = some "temporal" ∧
      labels.get? Label.instanceName = some cluster.name ∧
      labels.get? Label.component = some component := by
  rw [selector, selects_ofList]
  · simp
  · simp
    decide

namespace Child

/-- By which labels the object finds its pods. -/
def selector? : Child → Option (StringMap String)
  | service object => object.spec.bind ServiceSpec.selector
  | deployment object => object.spec.bind fun spec => spec.selector.matchLabels

/-- The labels of the pods that the object makes. -/
def podLabels? (child : Child) : Option (StringMap String) := do
  let deployment ← child.deployment?
  let spec ← deployment.spec
  let metadata ← spec.template.metadata
  metadata.labels

end Child

namespace Builder

variable {cluster second : Cluster} {builder other : Builder} {held chosen shaped : Child}

theorem Exposes.component {exposure : Exposure} (exposes : builder.Exposes cluster exposure) :
    exposure.component = builder.component := by
  cases exposes with
  | frontend described =>
      rcases Exposure.frontend_eq_ok described with ⟨rpc, _, rfl⟩
      rfl
  | members described =>
      rcases Exposure.members_eq_ok described with ⟨rpc, membership, _, _, rfl⟩
      rfl
  | ui => rfl

theorem Deploys.component {workload : Workload} (deploys : builder.Deploys cluster workload) :
    workload.component = builder.component := by
  cases deploys with
  | role described =>
      rcases Workload.role_eq_ok described with ⟨ports, _, rfl⟩
      rfl
  | ui described =>
      rcases Workload.ui_eq_ok described with ⟨address, rfl⟩
      rfl
  | adminTools described =>
      rcases Workload.adminTools_eq_ok described with ⟨address, rfl⟩
      rfl

/-- Services and deployments of a component look for the same pods. -/
theorem selector?_update (updated : builder.update cluster held = .ok shaped) :
    shaped.selector? = some (cluster.selector builder.component.text) := by
  rcases update_cases updated with
    ⟨exposure, observed, result, exposes, rfl, rfl, applied⟩ |
      ⟨workload, observed, result, deploys, rfl, rfl, applied⟩
  · rcases Exposure.apply_eq_ok applied with ⟨metadata, _, rfl⟩
    rw [← exposes.component]
    simp only [Child.selector?, Option.bind_some, Exposure.applySpec]
    split
    · rfl
    · rfl
  · rcases Workload.apply_eq_ok applied with ⟨metadata, _, rfl⟩
    rw [← deploys.component]
    rfl

/-- What a builder gives stands over what was observed in the template of the pods. -/
theorem podLabels?_update {observed : Deployment}
    (updated : builder.update cluster (.deployment observed) = .ok shaped) :
    ∃ labels, shaped.podLabels? = some labels ∧
      ∀ key value, builder.label? cluster key = some value → labels.get? key = some value := by
  rcases update_cases updated with
    ⟨exposure, service, result, exposes, isService, _⟩ |
      ⟨workload, deployment, result, deploys, isDeployment, rfl, applied⟩
  · cases isService
  · rcases Workload.apply_eq_ok applied with ⟨metadata, _, rfl⟩
    have reshaped := Workload.reshaped_applySpec deploys (deployment.spec.getD {})
    rcases reshaped.template.metadata with ⟨labels, ⟨map, isMap, overlaid⟩, isMetadata⟩
    refine ⟨map, ?_, ?_⟩
    · simp [Child.podLabels?, Child.deployment?, isMetadata, isMap]
    · intro key value given
      simp [overlaid, given]

/-- The labels that a selector asks for are not taken from the labels of the cluster. -/
theorem label?_selected (cluster : Cluster) (builder : Builder) :
    builder.label? cluster Label.name = some "temporal" ∧
    builder.label? cluster Label.instanceName = some cluster.name ∧
    builder.label? cluster Label.component = some builder.component.text := by
  have unmarked : Label.headless ≠ Label.name ∧ Label.headless ≠ Label.instanceName ∧
      Label.headless ≠ Label.component := by
    decide
  have apart : Label.name ≠ Label.instanceName ∧ Label.name ≠ Label.component ∧
      Label.instanceName ≠ Label.component := by
    decide
  cases headless : builder.isHeadless with
  | false => simp [label?, standardLabels, SortedMap.findEntry, headless, apart]
  | true => simp [label?, standardLabels, SortedMap.findEntry, headless, unmarked, apart]

end Builder

/-- A cluster that hands on the very labels that selectors ask for. -/
def Cluster.mislabelled : Cluster where
  metadata :=
    { name := some "prod"
      ns := some "apps"
      uid := some "1"
      labels := some (.ofList [(Label.component, "ui"), (Label.instanceName, "test")]) }
  spec := ClusterSpec.withDefaults { ui := some { enabled := true } }
  status := none

/-- A deployment whose pods are labelled as those of another component. -/
def Deployment.mislabelled : Deployment where
  metadata := { name := some "prod-history", ns := some "apps" }
  spec := some
    { template :=
        { metadata := some { labels := some (.ofList [(Label.component, "ui")]) } } }

/-- The port leads by its name to one of the given ports, which is as the service says. -/
def ServicePort.LeadsTo (targets : List ContainerPort) (port : ServicePort) : Prop :=
  ∃ name target, port.targetPort = some (.name name) ∧
    targets.filter (fun other => other.name = some name) = [target] ∧
    target.containerPort = port.port ∧ target.protocol = port.protocol

/-- There is a port for HTTP that leads to a port of the same name. -/
def ServicePort.OffersHttp (ports : List ServicePort) : Prop :=
  ∃ port ∈ ports, port.name = some "http" ∧ port.targetPort = some (.name "http")

instance (ports : List ServicePort) : Decidable (ServicePort.OffersHttp ports) :=
  inferInstanceAs <| Decidable <|
    ∃ port ∈ ports, port.name = some "http" ∧ port.targetPort = some (.name "http")

theorem ServicePort.leadsTo_toNamed {name target : String} {number : Int}
    {targets : List ContainerPort}
    (found : targets.filter (fun other => other.name = some target) = [.tcp target number]) :
    (toNamed name number target).LeadsTo targets :=
  ⟨target, .tcp target number, rfl, found, rfl, rfl⟩

def Service.ports (service : Service) : List ServicePort :=
  (service.spec.getD {}).ports.getD []

/-- The names and the numbers of ports. -/
def ServicePort.listed (ports : List ServicePort) : List (Option String × Option Int) :=
  ports.map fun port => (port.name, some port.port)

namespace Builder

/-- The names and the numbers of the ports that a service is to offer. -/
def offers (cluster : Cluster) : Builder → List (Option String × Option Int)
  | frontendService =>
      let settings := cluster.roleSettings .frontend
      (some "grpc-rpc", settings.port) ::
        (settings.httpPort.map fun port => (some "http", some port)).toList
  | headlessService role =>
      let settings := cluster.roleSettings role
      [(some "tcp-rpc", settings.port), (some "tcp-membership", settings.membershipPort),
        (some "http-metrics", some metricsPort)]
  | uiService => [(some "http", some uiPort)]
  | roleDeployment _ => []
  | uiDeployment => []
  | adminToolsDeployment => []

/-- The ports of the container that a builder sees to. -/
def containerPorts (builder : Builder) (deployment : Deployment) : List ContainerPort :=
  ((builder.containerIn deployment).bind Container.ports).getD []

/-- The builder of the deployment to whose pods a service leads. -/
def deployer (builder : Builder) : Builder :=
  match builder.component with
  | .role role => roleDeployment role
  | .ui => uiDeployment
  | .adminTools => adminToolsDeployment

variable {cluster : Cluster} {builder other : Builder} {exposure : Exposure} {workload : Workload}

/-- A component has one deployment. -/
theorem Deploys.eq_deployer (deploys : other.Deploys cluster workload)
    (same : other.component = builder.component) : other = builder.deployer := by
  unfold deployer
  rw [← same]
  cases deploys <;> rfl

theorem ports_service {service result : Service}
    (applied : exposure.apply cluster service = .ok result) : result.ports = exposure.ports := by
  rcases Exposure.apply_eq_ok applied with ⟨metadata, _, rfl⟩
  simp only [Service.ports, Option.getD_some, Exposure.applySpec]
  split <;> rfl

theorem containerPorts_deployment {deployment result : Deployment} {ports : List ContainerPort}
    (deploys : builder.Deploys cluster workload) (isSet : workload.ports = some ports)
    (applied : workload.apply cluster deployment = .ok result) :
    builder.containerPorts result = ports := by
  simp [containerPorts, containerIn_apply deploys applied, Workload.applyContainer, isSet]

end Builder

/-! ### Names on both sides -/

namespace Workload

/-- The ports of a service's container by their names. -/
structure Names (rpc membership : Int) (http : Option Int) (ports : List ContainerPort) :
    Prop where
  rpc : ports.filter (fun port => port.name = some "rpc") = [.tcp "rpc" rpc]
  membership : ports.filter (fun port => port.name = some "membership") =
    [.tcp "membership" membership]
  metrics : ports.filter (fun port => port.name = some "metrics") = [.tcp "metrics" metricsPort]
  http : ports.filter (fun port => port.name = some "http") =
    (http.map (ContainerPort.tcp "http")).toList

/-- Only the frontend has a port for HTTP. -/
def httpPort (cluster : Cluster) (role : Role) : Option Int :=
  if role = .frontend then (cluster.roleSettings role).httpPort else none

theorem names_rolePorts {cluster : Cluster} {role : Role} {ports : List ContainerPort}
    (described : rolePorts cluster role = .ok ports) :
    ∃ rpc membership, (cluster.roleSettings role).port = some rpc ∧
      (cluster.roleSettings role).membershipPort = some membership ∧
      Names rpc membership (httpPort cluster role) ports := by
  rcases rolePorts_eq_ok described with ⟨rpc, membership, isSet, alsoSet, rfl⟩
  refine ⟨rpc, membership, isSet, alsoSet, ?_⟩
  rw [← httpPort]
  cases httpPort cluster role with
  | none =>
      constructor
      all_goals simp [ContainerPort.tcp]
  | some http =>
      constructor
      all_goals simp [ContainerPort.tcp]

end Workload

namespace Builder

variable {cluster : Cluster} {builder other : Builder} {exposure : Exposure} {workload : Workload}

/-- A service exposes the ports that it is to offer. -/
theorem Exposes.listed_ports (exposes : builder.Exposes cluster exposure) :
    ServicePort.listed exposure.ports = builder.offers cluster := by
  cases exposes with
  | frontend described =>
      rcases Exposure.frontend_eq_ok described with ⟨rpc, isSet, rfl⟩
      simp only [ServicePort.listed, offers, isSet]
      cases (cluster.roleSettings .frontend).httpPort <;> rfl
  | members described =>
      rcases Exposure.members_eq_ok described with ⟨rpc, membership, isRpc, isMembership, rfl⟩
      simp only [ServicePort.listed, offers, isRpc, isMembership]
      rfl
  | ui => rfl

/-- What a service exposes is there in the container of its deployment. -/
theorem Exposes.leadsTo (exposes : builder.Exposes cluster exposure)
    (deploys : builder.deployer.Deploys cluster workload) :
    ∃ targets, workload.ports = some targets ∧
      ∀ port ∈ exposure.ports, port.LeadsTo targets := by
  cases exposes with
  | frontend described =>
      rcases Exposure.frontend_eq_ok described with ⟨rpc, isSet, rfl⟩
      change (roleDeployment .frontend).Deploys cluster workload at deploys
      cases deploys with
      | role deployed =>
          rcases Workload.role_eq_ok deployed with ⟨targets, arePorts, rfl⟩
          rcases Workload.names_rolePorts arePorts with ⟨_, _, alsoSet, _, names⟩
          cases isSet.symm.trans alsoSet
          refine ⟨targets, rfl, ?_⟩
          intro port there
          rcases List.mem_cons.mp there with rfl | http
          · exact ServicePort.leadsTo_toNamed names.rpc
          · rcases Option.map_eq_some_iff.mp (Option.mem_toList.mp http) with ⟨number, isHttp, rfl⟩
            apply ServicePort.leadsTo_toNamed
            have sameHttp : Workload.httpPort cluster .frontend = some number := isHttp
            simp [names.http, sameHttp]
  | @members role _ described =>
      rcases Exposure.members_eq_ok described with ⟨rpc, membership, isRpc, isMembership, rfl⟩
      change (roleDeployment role).Deploys cluster workload at deploys
      cases deploys with
      | role deployed =>
          rcases Workload.role_eq_ok deployed with ⟨targets, arePorts, rfl⟩
          rcases Workload.names_rolePorts arePorts with ⟨_, _, alsoRpc, alsoMembership, names⟩
          cases isRpc.symm.trans alsoRpc
          cases isMembership.symm.trans alsoMembership
          refine ⟨targets, rfl, ?_⟩
          simp only [List.forall_mem_cons]
          exact ⟨ServicePort.leadsTo_toNamed names.rpc,
            ServicePort.leadsTo_toNamed names.membership,
            ServicePort.leadsTo_toNamed names.metrics, List.forall_mem_nil _⟩
  | ui =>
      change uiDeployment.Deploys cluster workload at deploys
      cases deploys with
      | ui deployed =>
          rcases Workload.ui_eq_ok deployed with ⟨address, rfl⟩
          refine ⟨_, rfl, ?_⟩
          intro port there
          rw [List.mem_singleton.mp there]
          apply ServicePort.leadsTo_toNamed
          simp [ContainerPort.tcp]

/-- The frontend is called over HTTP where its container listens for it. -/
theorem Exposes.offersHttp_iff (exposes : frontendService.Exposes cluster exposure)
    (deploys : (roleDeployment .frontend).Deploys cluster workload) :
    ServicePort.OffersHttp exposure.ports ↔
      ∃ target ∈ workload.ports.getD [], target.name = some "http" := by
  have inService : ServicePort.OffersHttp exposure.ports ↔
      ((cluster.roleSettings .frontend).httpPort).isSome := by
    cases exposes with
    | frontend described =>
        rcases Exposure.frontend_eq_ok described with ⟨rpc, _, rfl⟩
        cases (cluster.roleSettings .frontend).httpPort <;>
          simp [ServicePort.OffersHttp, ServicePort.toNamed]
  have inContainer : (∃ target ∈ workload.ports.getD [], target.name = some "http") ↔
      ((cluster.roleSettings .frontend).httpPort).isSome := by
    cases deploys with
    | role deployed =>
        rcases Workload.role_eq_ok deployed with ⟨targets, arePorts, rfl⟩
        rcases Workload.rolePorts_eq_ok arePorts with ⟨rpc, membership, _, _, rfl⟩
        cases (cluster.roleSettings .frontend).httpPort <;> simp [ContainerPort.tcp]
  rw [inService, inContainer]

/-- A service and its deployment are wanted by the same clusters. -/
theorem isEnabled_deployer (exposes : builder.Exposes cluster exposure) :
    builder.deployer.isEnabled cluster = builder.isEnabled cluster := by
  cases exposes with
  | frontend described =>
      rcases Exposure.frontend_eq_ok described with ⟨rpc, isSet, rfl⟩
      simp [deployer, component, isEnabled, Cluster.role?_eq_of_port isSet]
  | members described => rfl
  | ui => rfl

/-- A service offers just the ports that it is to offer. Every one of them leads to one port of the
container of its deployment, and the service of the frontend is called over HTTP where the container
listens for it. -/
theorem leadsTo_of_update {observed held : Child} {service : Service} {deployment : Deployment}
    (exposed : builder.update cluster observed = .ok (.service service))
    (deployed : other.update cluster held = .ok (.deployment deployment))
    (same : other.component = builder.component) :
    other.isEnabled cluster = builder.isEnabled cluster ∧
    ServicePort.listed service.ports = builder.offers cluster ∧
    (∀ port ∈ service.ports, port.LeadsTo (other.containerPorts deployment)) ∧
    (builder = .frontendService →
      (ServicePort.OffersHttp service.ports ↔
        ∃ target ∈ other.containerPorts deployment, target.name = some "http")) := by
  rcases update_cases exposed with
    ⟨exposure, before, result, exposes, rfl, isService, applied⟩ | ⟨_, _, _, _, _, isService, _⟩
  · rcases update_cases deployed with
      ⟨_, _, _, _, _, isDeployment, _⟩ |
        ⟨workload, template, made, deploys, rfl, isDeployment, alsoApplied⟩
    · cases isDeployment
    · cases isService
      cases isDeployment
      cases deploys.eq_deployer same
      rcases exposes.leadsTo deploys with ⟨targets, areTargets, leadsTo⟩
      have listens := containerPorts_deployment deploys areTargets alsoApplied
      rw [ports_service applied, listens]
      refine ⟨isEnabled_deployer exposes, exposes.listed_ports, leadsTo, ?_⟩
      rintro rfl
      have offers := exposes.offersHttp_iff deploys
      rw [areTargets] at offers
      exact offers
  · cases isService

end Builder

/-- A cluster whose frontend has an HTTP API. -/
def Cluster.gateway : Cluster where
  metadata := { name := some "prod", ns := some "apps", uid := some "1" }
  spec := ClusterSpec.withDefaults
    { services := some { frontend := some { httpPort := some 7243 } } }
  status := none

/-- The service of the frontend leads to the ports of a container that a proxy stands before. -/
theorem Builder.leadsTo_of_update_of_gateway :
    Cluster.gateway.spec.isNormal ∧
    ∃ service deployment,
      frontendService.update .gateway (frontendService.skeleton .gateway) = .ok (.service service) ∧
      (roleDeployment .frontend).update .gateway (.deployment .meshed) =
        .ok (.deployment deployment) ∧
      frontendService.isEnabled .gateway ∧
      ServicePort.listed service.ports = [(some "grpc-rpc", some 7233), (some "http", some 7243)] ∧
      (∀ port ∈ service.ports,
        port.LeadsTo ((roleDeployment .frontend).containerPorts deployment)) ∧
      ∃ target ∈ (roleDeployment .frontend).containerPorts deployment,
        target.name = some "http" := by
  obtain ⟨service, exposed⟩ :
      ∃ service,
        frontendService.update .gateway (frontendService.skeleton .gateway) =
          .ok (.service service) :=
    ⟨_, rfl⟩
  obtain ⟨deployment, deployed⟩ :
      ∃ deployment,
        (roleDeployment .frontend).update .gateway (.deployment .meshed) =
          .ok (.deployment deployment) :=
    ⟨_, rfl⟩
  rcases leadsTo_of_update exposed deployed rfl with ⟨_, listed, leadsTo, offers⟩
  have offered : ServicePort.OffersHttp service.ports := by
    cases exposed
    decide
  exact ⟨by decide, service, deployment, exposed, deployed, rfl, listed, leadsTo,
    (offers rfl).mp offered⟩

end ClusterOperator
