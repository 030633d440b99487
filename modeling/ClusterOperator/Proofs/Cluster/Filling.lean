import ClusterOperator.Cluster.Defaults

/-!
# Specs that are filled in

Filling in a spec keeps all that the user has set (`ClusterSpec.Keeps`), and there is nothing to
fill in exactly where all that has a default is set (`ClusterSpec.Complete`).
-/

namespace ClusterOperator

/-- What is set stays set, to something that is related to it. -/
def SetStays {α : Type} (related : α → α → Prop) (given filled : Option α) : Prop :=
  ∀ value, given = some value → ∃ other, filled = some other ∧ related value other

/-- A text that is not empty stays as it is. -/
def TextStays (given filled : String) : Prop := given ≠ "" → filled = given

theorem setStays_setOr {α : Type} (fallback : α) (value : Option α) :
    SetStays (· = ·) value (setOr fallback value) := by
  rintro held rfl
  exact ⟨held, rfl, rfl⟩

theorem SetStays.refl {α : Type} {related : α → α → Prop} (same : ∀ value, related value value)
    (value : Option α) : SetStays related value value :=
  fun held is => ⟨held, is, same held⟩

theorem textStays_textOr (fallback text : String) : TextStays text (textOr fallback text) :=
  textOr_of_ne

/-! ## What is kept -/

/-- All that is set of a service is kept. -/
structure RoleSpec.Keeps (given filled : RoleSpec) : Prop where
  replicas : SetStays (· = ·) given.replicas filled.replicas
  port : SetStays (· = ·) given.port filled.port
  membershipPort : SetStays (· = ·) given.membershipPort filled.membershipPort
  httpPort : SetStays (· = ·) given.httpPort filled.httpPort

structure PersistenceSpec.Keeps (given filled : PersistenceSpec) : Prop where
  defaultStore : filled.defaultStore = given.defaultStore
  visibilityStore : SetStays TextStays given.visibilityStore filled.visibilityStore

structure CertificateLifetimes.Keeps (given filled : CertificateLifetimes) : Prop where
  rootCa : SetStays (· = ·) given.rootCa filled.rootCa
  intermediateCas : SetStays (· = ·) given.intermediateCas filled.intermediateCas
  client : SetStays (· = ·) given.client filled.client
  frontend : SetStays (· = ·) given.frontend filled.frontend
  internode : SetStays (· = ·) given.internode filled.internode

structure MutualTlsSpec.Keeps (given filled : MutualTlsSpec) : Prop where
  provider : filled.provider = given.provider
  refreshInterval : SetStays (· = ·) given.refreshInterval filled.refreshInterval
  lifetimes : SetStays CertificateLifetimes.Keeps given.lifetimes filled.lifetimes

structure UiSpec.Keeps (given filled : UiSpec) : Prop where
  enabled : filled.enabled = given.enabled
  version : TextStays given.version filled.version
  image : TextStays given.image filled.image

structure AdminToolsSpec.Keeps (given filled : AdminToolsSpec) : Prop where
  enabled : filled.enabled = given.enabled
  image : TextStays given.image filled.image

/-- All that is set in a spec is kept. -/
structure ClusterSpec.Keeps (given filled : ClusterSpec) : Prop where
  version : TextStays given.version filled.version
  image : TextStays given.image filled.image
  roles : ∀ role, SetStays RoleSpec.Keeps (given.role? role) (filled.role? role)
  persistence : given.persistence.Keeps filled.persistence
  mutualTls : SetStays MutualTlsSpec.Keeps given.mutualTls filled.mutualTls
  ui : SetStays UiSpec.Keeps given.ui filled.ui
  adminTools : SetStays AdminToolsSpec.Keeps given.adminTools filled.adminTools

theorem RoleSpec.keeps_withDefaults (role : Role) (given : RoleSpec) :
    given.Keeps (given.withDefaults role) where
  replicas := setStays_setOr _ _
  port := setStays_setOr _ _
  membershipPort := setStays_setOr _ _
  httpPort := by
    dsimp only [withDefaults]
    split
    · exact setStays_setOr _ _
    · exact .refl (fun _ => rfl) _

theorem PersistenceSpec.keeps_withDefaults (given : PersistenceSpec) :
    given.Keeps given.withDefaults where
  defaultStore := rfl
  visibilityStore := by
    intro text named
    dsimp only [withDefaults]
    rw [named]
    exact ⟨_, rfl, textStays_textOr _ _⟩

theorem CertificateLifetimes.keeps_withDefaults (given : CertificateLifetimes) :
    given.Keeps given.withDefaults :=
  ⟨setStays_setOr _ _, setStays_setOr _ _, setStays_setOr _ _, setStays_setOr _ _,
    setStays_setOr _ _⟩

theorem CertificateLifetimes.Keeps.refl (given : CertificateLifetimes) : given.Keeps given := by
  constructor <;> exact .refl (fun _ => rfl) _

theorem MutualTlsSpec.keeps_withDefaults (given : MutualTlsSpec) :
    given.Keeps given.withDefaults := by
  unfold withDefaults
  split
  · refine ⟨rfl, setStays_setOr _ _, ?_⟩
    intro lifetimes named
    dsimp only
    rw [named]
    exact ⟨_, rfl, lifetimes.keeps_withDefaults⟩
  · exact ⟨rfl, .refl (fun _ => rfl) _, .refl CertificateLifetimes.Keeps.refl _⟩

theorem UiSpec.keeps_withDefaults (given : UiSpec) : given.Keeps given.withDefaults :=
  ⟨rfl, textStays_textOr _ _, textStays_textOr _ _⟩

theorem AdminToolsSpec.keeps_withDefaults (given : AdminToolsSpec) :
    given.Keeps given.withDefaults :=
  ⟨rfl, textStays_textOr _ _⟩

theorem ClusterSpec.role?_withDefaults (spec : ClusterSpec) (role : Role) :
    spec.withDefaults.role? role = some (((spec.role? role).getD {}).withDefaults role) := by
  unfold role? withDefaults RolesSpec.withDefaults
  cases spec.services with
  | none => exact (RolesSpec.get?_ofFunction _ role).trans (by cases role <;> rfl)
  | some roles => exact RolesSpec.get?_ofFunction _ role

/-- Filling in a spec keeps all that is set in it. -/
theorem ClusterSpec.keeps_withDefaults (given : ClusterSpec) : given.Keeps given.withDefaults where
  version := textStays_textOr _ _
  image := textStays_textOr _ _
  roles := by
    intro role settings declared
    rw [role?_withDefaults, declared]
    exact ⟨_, rfl, settings.keeps_withDefaults role⟩
  persistence := given.persistence.keeps_withDefaults
  mutualTls := by
    intro mutualTls isSet
    refine ⟨_, ?_, mutualTls.keeps_withDefaults⟩
    exact congrArg (Option.map MutualTlsSpec.withDefaults) isSet
  ui := by
    intro ui isSet
    refine ⟨_, ?_, ui.keeps_withDefaults⟩
    dsimp only [withDefaults]
    rw [isSet]
    rfl
  adminTools := by
    intro tools isSet
    refine ⟨_, ?_, tools.keeps_withDefaults⟩
    dsimp only [withDefaults]
    rw [isSet]
    rfl

/-! ## What is complete -/

theorem setOr_eq_self_iff {α : Type} {fallback : α} {value : Option α} :
    setOr fallback value = value ↔ value.isSome := by
  cases value <;> simp [setOr]

theorem textOr_eq_self_iff {fallback text : String} :
    textOr fallback text = text ↔ text = "" → fallback = "" := by
  by_cases empty : text = "" <;> simp [textOr, empty]

/-- A part that defaults are put into where it is absent stays as it is where it is there and
complete. -/
theorem some_eq_self_iff {α : Type} {change : α → α} {initial : α} {part : Option α} :
    some (change (part.getD initial)) = part ↔ ∃ held, part = some held ∧ change held = held := by
  cases part with
  | none => simp
  | some held => simp

theorem map_eq_self_iff {α : Type} {change : α → α} {part : Option α} :
    part.map change = part ↔ ∀ held, part = some held → change held = held := by
  cases part <;> simp

/-- Everything of a service that has a default is set. -/
structure RoleSpec.Complete (role : Role) (settings : RoleSpec) : Prop where
  replicas : settings.replicas.isSome
  port : settings.port.isSome
  membershipPort : settings.membershipPort.isSome
  httpPort : role = .frontend → settings.httpPort.isSome

structure CertificateLifetimes.Complete (lifetimes : CertificateLifetimes) : Prop where
  rootCa : lifetimes.rootCa.isSome
  intermediateCas : lifetimes.intermediateCas.isSome
  client : lifetimes.client.isSome
  frontend : lifetimes.frontend.isSome
  internode : lifetimes.internode.isSome

/-- Only of managed certificates there is anything to be set. -/
def MutualTlsSpec.Complete (mutualTls : MutualTlsSpec) : Prop :=
  mutualTls.isManaged → mutualTls.refreshInterval.isSome ∧
    ∃ lifetimes, mutualTls.lifetimes = some lifetimes ∧ lifetimes.Complete

/-- Everything that has a default is set. The visibility store is nameless only where the default
store is. -/
structure ClusterSpec.Complete (spec : ClusterSpec) : Prop where
  version : spec.version ≠ ""
  image : spec.image ≠ ""
  roles : ∀ role, ∃ settings, spec.role? role = some settings ∧ settings.Complete role
  visibilityStore : ∃ store, spec.persistence.visibilityStore = some store ∧
    (store = "" → spec.persistence.defaultStore = "")
  mutualTls : ∀ mutualTls, spec.mutualTls = some mutualTls → mutualTls.Complete
  ui : ∃ ui, spec.ui = some ui ∧ ui.version ≠ "" ∧ ui.image ≠ ""
  adminTools : ∃ tools, spec.adminTools = some tools ∧ tools.image ≠ ""

theorem RoleSpec.withDefaults_eq_self_iff {role : Role} {settings : RoleSpec} :
    settings.withDefaults role = settings ↔ settings.Complete role := by
  have http : (if role = .frontend then setOr defaultHttpPort settings.httpPort
      else settings.httpPort) = settings.httpPort ↔
        (role = .frontend → settings.httpPort.isSome) := by
    by_cases front : role = .frontend <;> simp [front, setOr_eq_self_iff]
  cases settings
  simp only [withDefaults, RoleSpec.mk.injEq, setOr_eq_self_iff]
  constructor
  · rintro ⟨replicas, port, membershipPort, httpPort⟩
    exact ⟨replicas, port, membershipPort, http.mp httpPort⟩
  · rintro ⟨replicas, port, membershipPort, httpPort⟩
    exact ⟨replicas, port, membershipPort, http.mpr httpPort⟩

theorem CertificateLifetimes.withDefaults_eq_self_iff {lifetimes : CertificateLifetimes} :
    lifetimes.withDefaults = lifetimes ↔ lifetimes.Complete := by
  cases lifetimes
  simp only [withDefaults, CertificateLifetimes.mk.injEq, setOr_eq_self_iff]
  constructor
  · rintro ⟨rootCa, intermediateCas, client, frontend, internode⟩
    exact ⟨rootCa, intermediateCas, client, frontend, internode⟩
  · rintro ⟨rootCa, intermediateCas, client, frontend, internode⟩
    exact ⟨rootCa, intermediateCas, client, frontend, internode⟩

theorem MutualTlsSpec.withDefaults_eq_self_iff {mutualTls : MutualTlsSpec} :
    mutualTls.withDefaults = mutualTls ↔ mutualTls.Complete := by
  unfold withDefaults Complete
  split
  · rename_i managed
    cases mutualTls
    simp only [MutualTlsSpec.mk.injEq, true_and, setOr_eq_self_iff, some_eq_self_iff,
      CertificateLifetimes.withDefaults_eq_self_iff, managed, true_imp_iff]
  · rename_i unmanaged
    exact iff_of_true rfl fun managed => absurd managed unmanaged

theorem RolesSpec.ext_get? {roles other : RolesSpec}
    (same : ∀ role, roles.get? role = other.get? role) : roles = other := by
  cases roles
  cases other
  cases same .frontend
  cases same .history
  cases same .matching
  cases same .worker
  rfl

theorem RolesSpec.withDefaults_eq_self_iff {roles : RolesSpec} :
    roles.withDefaults = roles ↔
      ∀ role, ∃ settings, roles.get? role = some settings ∧ settings.Complete role := by
  have complete (role : Role) : roles.withDefaults.get? role = roles.get? role ↔
      ∃ settings, roles.get? role = some settings ∧ settings.Complete role := by
    rw [withDefaults, get?_ofFunction, some_eq_self_iff]
    simp only [RoleSpec.withDefaults_eq_self_iff]
  constructor
  · intro same role
    exact (complete role).mp (by rw [same])
  · intro all
    exact ext_get? fun role => (complete role).mpr (all role)

theorem PersistenceSpec.withDefaults_eq_self_iff {persistence : PersistenceSpec} :
    persistence.withDefaults = persistence ↔ ∃ store, persistence.visibilityStore = some store ∧
      (store = "" → persistence.defaultStore = "") := by
  cases persistence
  simp only [withDefaults, PersistenceSpec.mk.injEq, true_and, some_eq_self_iff,
    textOr_eq_self_iff]

theorem UiSpec.withDefaults_eq_self_iff {ui : UiSpec} :
    ui.withDefaults = ui ↔ ui.version ≠ "" ∧ ui.image ≠ "" := by
  cases ui
  simp [withDefaults, textOr_eq_self_iff]

theorem AdminToolsSpec.withDefaults_eq_self_iff {tools : AdminToolsSpec} :
    tools.withDefaults = tools ↔ tools.image ≠ "" := by
  cases tools
  simp [withDefaults, textOr_eq_self_iff]

/-- There is nothing to fill in where everything that has a default is set. -/
theorem ClusterSpec.isNormal_iff_complete {spec : ClusterSpec} :
    spec.isNormal ↔ spec.Complete := by
  have roles : (∃ roles, spec.services = some roles ∧ roles.withDefaults = roles) ↔
      ∀ role, ∃ settings, spec.role? role = some settings ∧ settings.Complete role := by
    unfold role?
    cases spec.services with
    | none =>
        refine iff_of_false ?_ fun all => ?_
        · rintro ⟨roles, ⟨⟩, _⟩
        · rcases all .frontend with ⟨settings, declared, _⟩
          cases declared
    | some roles => simp [RolesSpec.withDefaults_eq_self_iff]
  have parts : spec.withDefaults = spec ↔ textOr "1.23.0" spec.version = spec.version ∧
      textOr "temporalio/server" spec.image = spec.image ∧
      some (spec.services.getD {}).withDefaults = spec.services ∧
      spec.persistence.withDefaults = spec.persistence ∧
      spec.mutualTls.map MutualTlsSpec.withDefaults = spec.mutualTls ∧
      some (spec.ui.getD {}).withDefaults = spec.ui ∧
      some (spec.adminTools.getD {}).withDefaults = spec.adminTools := by
    cases spec
    simp only [withDefaults, ClusterSpec.mk.injEq]
  have texts (fallback text : String) (nonempty : fallback ≠ "") :
      textOr fallback text = text ↔ text ≠ "" := by
    simp [textOr_eq_self_iff, nonempty]
  unfold isNormal
  rw [decide_eq_true_iff, parts, texts _ _ (by decide), texts _ _ (by decide), some_eq_self_iff,
    some_eq_self_iff, some_eq_self_iff, map_eq_self_iff, roles]
  simp only [PersistenceSpec.withDefaults_eq_self_iff, MutualTlsSpec.withDefaults_eq_self_iff,
    UiSpec.withDefaults_eq_self_iff, AdminToolsSpec.withDefaults_eq_self_iff]
  constructor
  · rintro ⟨version, image, roles, visibility, mutualTls, ui, tools⟩
    exact ⟨version, image, roles, visibility, mutualTls, ui, tools⟩
  · rintro ⟨version, image, roles, visibility, mutualTls, ui, tools⟩
    exact ⟨version, image, roles, visibility, mutualTls, ui, tools⟩

end ClusterOperator
