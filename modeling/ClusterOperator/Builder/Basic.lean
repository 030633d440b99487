import ClusterOperator.Builder.Exposure
import ClusterOperator.Builder.Workload

/-!
# Builders

A builder describes one child object of a cluster: what it is called, whether there should be one,
and what shape it should have. Builders only describe; they create and delete nothing.
-/

namespace ClusterOperator

/-- The child objects that a cluster may have. -/
inductive Builder where
  /-- The service in front of the frontend. -/
  | frontendService
  /-- The service by which the members of a service find one another. -/
  | headlessService (role : Role)
  /-- The deployment of a service. -/
  | roleDeployment (role : Role)
  | uiDeployment
  | uiService
  | adminToolsDeployment
  deriving DecidableEq

namespace Builder

/-- All builders in the order in which they are applied. -/
def all : List Builder :=
  frontendService ::
    Role.all.flatMap (fun role => [headlessService role, roleDeployment role]) ++
    [uiDeployment, uiService, adminToolsDeployment]

/-- The component that the object belongs to. -/
def component : Builder → Component
  | frontendService => .role .frontend
  | headlessService role => .role role
  | roleDeployment role => .role role
  | uiDeployment => .ui
  | uiService => .ui
  | adminToolsDeployment => .adminTools

/-- The kind of the object. -/
def kind : Builder → ChildKind
  | frontendService => .service
  | headlessService _ => .service
  | roleDeployment _ => .deployment
  | uiDeployment => .deployment
  | uiService => .service
  | adminToolsDeployment => .deployment

/-- What follows the cluster's name in the name of the object. -/
def suffix : Builder → String
  | headlessService role => role.text ++ "-headless"
  | builder => builder.component.text

variable (cluster : Cluster)

/-- The version that the object is labelled with: the web UI has a version of its own. -/
def version (builder : Builder) : String :=
  match builder.component with
  | .ui => (cluster.spec.ui.getD {}).version
  | _ => cluster.spec.version

/-- The labels that the object has to have. -/
def labels (builder : Builder) : StringMap String :=
  let labels := cluster.childLabels builder.component.text (builder.version cluster)
  match builder with
  | headlessService _ => labels.overlay headlessLabels
  | _ => labels

/-- The metadata of the object before anybody has seen it. -/
def metadata (builder : Builder) : Metadata :=
  { name := some (cluster.childName builder.suffix)
    ns := cluster.metadata.ns
    labels := some (builder.labels cluster)
    annotations := some cluster.childAnnotations }

/-- The object with nothing but its metadata. -/
def skeleton (builder : Builder) : Child :=
  match builder.kind with
  | .service => .service { metadata := builder.metadata cluster }
  | .deployment => .deployment { metadata := builder.metadata cluster }

/-- The key of the object. -/
def key (builder : Builder) : ChildKey := (builder.skeleton cluster).key

/-- Whether there should be such an object. -/
def isEnabled (builder : Builder) : Bool :=
  match builder with
  | frontendService => true
  | headlessService role => (cluster.spec.role? role).isSome
  | roleDeployment role => (cluster.spec.role? role).isSome
  | uiDeployment => cluster.spec.uiEnabled
  | uiService => cluster.spec.uiEnabled
  | adminToolsDeployment => cluster.spec.adminToolsEnabled

/-- Brings a service into shape; the description of it is only made for a service. -/
def updateService (exposure : Except Error Exposure) : Child → Except Error Child
  | .service service => do
      let exposure ← exposure
      .service <$> exposure.apply cluster service
  | child => .error (.builder child.key.text "expected a Service")

/-- Brings a deployment into shape; the description of it comes first. -/
def updateDeployment (workload : Except Error Workload) (child : Child) : Except Error Child := do
  let workload ← workload
  match child with
  | .deployment deployment => .deployment <$> workload.apply cluster deployment
  | child => .error (.builder child.key.text "expected a Deployment")

/-- Brings an observed object into shape. -/
def update (builder : Builder) : Child → Except Error Child :=
  match builder with
  | frontendService => updateService cluster (Exposure.frontend cluster (builder.labels cluster))
  | headlessService role => updateService cluster
      (Exposure.members cluster role (builder.labels cluster))
  | roleDeployment role => updateDeployment cluster (Workload.role cluster role)
  | uiDeployment => updateDeployment cluster (Workload.ui cluster)
  | uiService => updateService cluster (pure (Exposure.ui (builder.labels cluster)))
  | adminToolsDeployment => updateDeployment cluster (Workload.adminTools cluster)

end Builder

end ClusterOperator
