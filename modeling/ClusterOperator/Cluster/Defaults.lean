import ClusterOperator.Cluster.Spec

/-!
# Default settings

What the operator fills in where a spec leaves something open. A value that the user gave is never
touched, so a spec that has been filled in stays as it is (`withDefaults_withDefaults`).
-/

namespace ClusterOperator

/-- A text, or another one where it is empty. -/
def textOr (fallback text : String) : String := if text = "" then fallback else text

/-- An optional value, or another one where it is unset. -/
def setOr {α : Type} (fallback : α) (value : Option α) : Option α := some (value.getD fallback)

theorem textOr_of_ne {fallback text : String} (given : text ≠ "") : textOr fallback text = text :=
  if_neg given

@[simp] theorem setOr_some {α : Type} (fallback value : α) :
    setOr fallback (some value) = some value := rfl

theorem textOr_textOr {fallback text : String} :
    textOr fallback (textOr fallback text) = textOr fallback text := by
  by_cases empty : text = "" <;> simp [textOr, empty]

@[simp] theorem setOr_setOr {α : Type} (fallback : α) (value : Option α) :
    setOr fallback (setOr fallback value) = setOr fallback value := rfl

namespace Role

/-- The port that a service is called on. -/
def defaultPort : Role → Int
  | frontend => 7233
  | history => 7234
  | matching => 7235
  | worker => 7239

/-- The port on which the members of a service find one another. -/
def defaultMembershipPort : Role → Int
  | frontend => 6933
  | history => 6934
  | matching => 6935
  | worker => 6939

end Role

/-- The port of the frontend's HTTP API. -/
def defaultHttpPort : Int := 7243

namespace RoleSpec

/-- The settings of a service with the open ones filled in; only the frontend has an HTTP port by
itself. -/
def withDefaults (role : Role) (settings : RoleSpec) : RoleSpec where
  replicas := setOr 1 settings.replicas
  port := setOr role.defaultPort settings.port
  membershipPort := setOr role.defaultMembershipPort settings.membershipPort
  httpPort :=
    if role = .frontend then setOr defaultHttpPort settings.httpPort else settings.httpPort

@[simp] theorem withDefaults_withDefaults (role : Role) (settings : RoleSpec) :
    (settings.withDefaults role).withDefaults role = settings.withDefaults role := by
  by_cases front : role = .frontend <;> simp [withDefaults, front]

end RoleSpec

/-- The settings of all services, declared or not, with the open ones filled in. -/
def RolesSpec.withDefaults (roles : RolesSpec) : RolesSpec :=
  .ofFunction fun role => some (((roles.get? role).getD {}).withDefaults role)

/-- The visibility store is the default store unless another one is named. -/
def PersistenceSpec.withDefaults (persistence : PersistenceSpec) : PersistenceSpec :=
  { persistence with
    visibilityStore :=
      some (textOr persistence.defaultStore (persistence.visibilityStore.getD "")) }

/-- The lifetimes of certificates: ten years for the root, five for intermediate ones, one for the
others. -/
def CertificateLifetimes.withDefaults (lifetimes : CertificateLifetimes) :
    CertificateLifetimes where
  rootCa := setOr (.ofHours 87600) lifetimes.rootCa
  intermediateCas := setOr (.ofHours 43830) lifetimes.intermediateCas
  client := setOr (.ofHours 8766) lifetimes.client
  frontend := setOr (.ofHours 8766) lifetimes.frontend
  internode := setOr (.ofHours 8766) lifetimes.internode

/-- Only managed certificates have defaults. -/
def MutualTlsSpec.withDefaults (mutualTls : MutualTlsSpec) : MutualTlsSpec :=
  if mutualTls.isManaged then
    { mutualTls with
      refreshInterval := setOr (.ofHours 1) mutualTls.refreshInterval
      lifetimes := some (mutualTls.lifetimes.getD {}).withDefaults }
  else mutualTls

def UiSpec.withDefaults (ui : UiSpec) : UiSpec :=
  { ui with version := textOr "2.25.0" ui.version, image := textOr "temporalio/ui" ui.image }

def AdminToolsSpec.withDefaults (tools : AdminToolsSpec) : AdminToolsSpec :=
  { tools with image := textOr "temporalio/admin-tools" tools.image }

/-- A spec with everything filled in that has a default. -/
def ClusterSpec.withDefaults (spec : ClusterSpec) : ClusterSpec where
  version := textOr "1.23.0" spec.version
  image := textOr "temporalio/server" spec.image
  services := some (spec.services.getD {}).withDefaults
  persistence := spec.persistence.withDefaults
  mutualTls := spec.mutualTls.map MutualTlsSpec.withDefaults
  ui := some (spec.ui.getD {}).withDefaults
  adminTools := some (spec.adminTools.getD {}).withDefaults

/-- Whether filling in the defaults leaves a spec as it is. -/
def ClusterSpec.isNormal (spec : ClusterSpec) : Bool := spec.withDefaults = spec

/-- What has been filled in stays as it is. -/
theorem ClusterSpec.withDefaults_withDefaults (spec : ClusterSpec) :
    spec.withDefaults.withDefaults = spec.withDefaults := by
  have roles (roles : RolesSpec) : roles.withDefaults.withDefaults = roles.withDefaults := by
    simp [RolesSpec.withDefaults]
  have persistence (persistence : PersistenceSpec) :
      persistence.withDefaults.withDefaults = persistence.withDefaults := by
    simp [PersistenceSpec.withDefaults, textOr_textOr]
  have mutualTls (mutualTls : MutualTlsSpec) :
      mutualTls.withDefaults.withDefaults = mutualTls.withDefaults := by
    by_cases managed : mutualTls.isManaged
    · simp [MutualTlsSpec.withDefaults, MutualTlsSpec.isManaged, CertificateLifetimes.withDefaults,
        show mutualTls.provider = some certManager from of_decide_eq_true managed]
    · simp [MutualTlsSpec.withDefaults, managed]
  simp [withDefaults, roles, persistence, mutualTls, Function.comp_def, textOr_textOr,
    UiSpec.withDefaults, AdminToolsSpec.withDefaults]

end ClusterOperator
