import ClusterOperator.Duration.Basic

/-!
# Cluster specs

What a user asks of a cluster: versions and images, the ports and replicas of its four services,
datastores, mutual TLS, the web UI and the admin tools.
-/

namespace ClusterOperator

/-- The services that make up a cluster. -/
inductive Role where
  | frontend
  | history
  | matching
  | worker
  deriving DecidableEq

namespace Role

/-- The services in the order in which they are built. -/
def all : List Role := [frontend, history, matching, worker]

/-- The name of a service, as object names contain it. -/
def text : Role → String
  | frontend => "frontend"
  | history => "history"
  | matching => "matching"
  | worker => "worker"

theorem mem_all (role : Role) : role ∈ all := by cases role <;> decide

end Role

/-- The settings of one service. -/
structure RoleSpec where
  replicas : Option Int := none
  port : Option Int := none
  membershipPort : Option Int := none
  httpPort : Option Int := none
  deriving DecidableEq

/-- The settings of the services that are declared. -/
structure RolesSpec where
  frontend : Option RoleSpec := none
  history : Option RoleSpec := none
  matching : Option RoleSpec := none
  worker : Option RoleSpec := none
  deriving DecidableEq

namespace RolesSpec

/-- The settings of a service, if it is declared. -/
def get? (roles : RolesSpec) : Role → Option RoleSpec
  | .frontend => roles.frontend
  | .history => roles.history
  | .matching => roles.matching
  | .worker => roles.worker

/-- Settings given for every service. -/
def ofFunction (settings : Role → Option RoleSpec) : RolesSpec :=
  { frontend := settings .frontend, history := settings .history,
    matching := settings .matching, worker := settings .worker }

@[simp] theorem get?_ofFunction (settings : Role → Option RoleSpec) (role : Role) :
    (ofFunction settings).get? role = settings role := by
  cases role <;> rfl

end RolesSpec

/-- Where a cluster keeps its data. -/
structure PersistenceSpec where
  defaultStore : String := ""
  visibilityStore : Option String := none
  deriving DecidableEq

/-- How long the certificates of a cluster live. -/
structure CertificateLifetimes where
  rootCa : Option Duration := none
  intermediateCas : Option Duration := none
  client : Option Duration := none
  frontend : Option Duration := none
  internode : Option Duration := none
  deriving DecidableEq

/-- How the services of a cluster prove to one another who they are. -/
structure MutualTlsSpec where
  provider : Option String := none
  refreshInterval : Option Duration := none
  lifetimes : Option CertificateLifetimes := none
  deriving DecidableEq

/-- The only certificate provider that certificates are managed with. -/
def certManager : String := "cert-manager"

/-- Whether the certificates are managed. -/
def MutualTlsSpec.isManaged (mutualTls : MutualTlsSpec) : Bool :=
  mutualTls.provider = some certManager

/-- The web UI of a cluster. -/
structure UiSpec where
  enabled : Bool := false
  version : String := ""
  image : String := ""
  deriving DecidableEq

/-- The admin tools of a cluster; their version is the one of the cluster. -/
structure AdminToolsSpec where
  enabled : Bool := false
  image : String := ""
  deriving DecidableEq

/-- What a user asks of a cluster. -/
structure ClusterSpec where
  version : String := ""
  image : String := ""
  services : Option RolesSpec := none
  persistence : PersistenceSpec := {}
  mutualTls : Option MutualTlsSpec := none
  ui : Option UiSpec := none
  adminTools : Option AdminToolsSpec := none
  deriving DecidableEq

namespace ClusterSpec

/-- The settings of a service, if it is declared. -/
def role? (spec : ClusterSpec) (role : Role) : Option RoleSpec :=
  spec.services.bind (·.get? role)

/-- Whether certificates are managed. -/
def mutualTlsEnabled (spec : ClusterSpec) : Bool := spec.mutualTls.any MutualTlsSpec.isManaged

/-- Whether the web UI is wanted. -/
def uiEnabled (spec : ClusterSpec) : Bool := spec.ui.any UiSpec.enabled

/-- Whether the admin tools are wanted. -/
def adminToolsEnabled (spec : ClusterSpec) : Bool := spec.adminTools.any AdminToolsSpec.enabled

/-- The declared services in build order. -/
def declaredRoles (spec : ClusterSpec) : List Role :=
  Role.all.filter fun role => (spec.role? role).isSome

end ClusterSpec

end ClusterOperator
